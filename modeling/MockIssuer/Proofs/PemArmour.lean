import MockIssuer.Encoding.Pem
import MockIssuer.Proofs.AsciiText
import MockIssuer.Proofs.Base64

/-!
# Reading armour back

What is written as one labelled block is read as this block and nothing else (`blocks?_write`). The
markers begin with a dash, and neither a label nor the data holds one, so each marker is found where
it was written. The lines of the data are closed one by one and none is empty, so no headers are
seen in front of it.
-/
namespace MockIssuer.Pem
variable {first : UInt8} {marker before after tail : Bytes} {text : List Char}

/-- A marker is not found in bytes without its first one. -/
lemma splitAt?_append_of_notMem (hb : first ∉ before) :
    splitAt? (first :: marker) (before ++ tail) =
      (splitAt? (first :: marker) tail).map fun (front, back) => (before ++ front, back) := by
  induction before with
  | nil =>
    rw [List.nil_append]
    cases splitAt? (first :: marker) tail <;> rfl
  | cons byte rest ih =>
    obtain ⟨hbyte, hrest⟩ := not_or.1 (List.mem_cons.not.1 hb)
    have hprefix : (first :: marker).isPrefixOf (byte :: (rest ++ tail)) = false := by
      simp [List.isPrefixOf, hbyte]
    rw [List.cons_append, splitAt?, hprefix, ih hrest]
    cases splitAt? (first :: marker) tail <;> rfl

lemma splitAt?_eq_none_of_notMem (hb : first ∉ before) :
    splitAt? (first :: marker) before = none := by
  have hall : splitAt? (first :: marker) (before ++ []) = none := by
    rw [splitAt?_append_of_notMem hb]
    rfl
  rwa [List.append_nil] at hall

lemma splitAt?_marker (hb : first ∉ before) (after : Bytes) :
    splitAt? (first :: marker) (before ++ (first :: marker ++ after)) = some (before, after) := by
  have hfront : splitAt? (first :: marker) (first :: marker ++ after) = some ([], after) := by
    have hprefix : (first :: marker).isPrefixOf (first :: (marker ++ after)) = true :=
      List.isPrefixOf_iff_prefix.2 (List.prefix_append (first :: marker) after)
    rw [List.cons_append, splitAt?, hprefix, if_pos rfl, ← List.cons_append, List.drop_left]
  rw [splitAt?_append_of_notMem hb, hfront]
  simp

/-- Characters that data is made of: ASCII, neither white nor a dash, as they are and as bytes. -/
structure IsData (c : Char) : Prop where
  ascii : c.toNat < 0x80
  visible : Text.isWhite c = false
  notDash : c.toNat.toUInt8 ≠ 0x2d
  notSpace : isSpace c.toNat.toUInt8 = false

/-- The data of a text in lines. -/
def dataLines (fuel : ℕ) (text : List Char) : Bytes :=
  (wrap fuel text).map fun c => c.toNat.toUInt8

lemma isData_encode (contents : Bytes) : ∀ c ∈ Base64.encode .standard contents, IsData c := by
  intro c hc
  have hascii : ∀ n : Fin 64, (Base64.character .standard n).toNat < 0x80 := by decide
  have hvisible : ∀ n : Fin 64, Text.isWhite (Base64.character .standard n) = false := by decide
  have hdash : ∀ n : Fin 64, (Base64.character .standard n).toNat.toUInt8 ≠ 0x2d := by decide
  have hspace : ∀ n : Fin 64, isSpace (Base64.character .standard n).toNat.toUInt8 = false := by
    decide
  rcases Base64.mem_encode hc with ⟨n, rfl⟩ | rfl
  · exact ⟨hascii n, hvisible n, hdash n, hspace n⟩
  · exact ⟨by decide, by decide, by decide, by decide⟩

lemma mem_wrap {fuel : ℕ} {c : Char} (hc : c ∈ wrap fuel text) : c = '\n' ∨ c ∈ text := by
  induction fuel generalizing text with
  | zero => cases hc
  | succ fuel ih =>
    cases text with
    | nil => cases hc
    | cons d rest =>
      rw [wrap] at hc
      · rcases List.mem_append.1 hc with hline | hmore
        · exact Or.inr (List.mem_of_mem_take hline)
        rcases List.mem_cons.1 hmore with rfl | hrest
        · exact Or.inl rfl
        · exact (ih hrest).imp_right List.mem_of_mem_drop
      · simp

lemma filter_wrap {fuel : ℕ} (ht : ∀ c ∈ text, IsData c) (hf : text.length ≤ fuel) :
    (wrap fuel text).filter (!Text.isWhite ·) = text := by
  induction fuel generalizing text with
  | zero =>
    rw [List.length_eq_zero_iff.1 (Nat.le_zero.1 hf)]
    rfl
  | succ fuel ih =>
    cases text with
    | nil => rfl
    | cons c rest =>
      have hline : ((c :: rest).take 64).filter (!Text.isWhite ·) = (c :: rest).take 64 :=
        List.filter_eq_self.2 fun d hd => by simp [(ht d (List.mem_of_mem_take hd)).visible]
      have hshorter : ((c :: rest).drop 64).length ≤ fuel := by
        simp only [List.length_drop, List.length_cons] at hf ⊢
        omega
      have hmore := ih (fun d hd => ht d (List.mem_of_mem_drop hd)) hshorter
      have hfeed : Text.isWhite '\n' = true := by decide
      rw [wrap, List.filter_append, List.filter_cons, hline, hmore, hfeed]
      · exact List.take_append_drop 64 (c :: rest)
      · simp

lemma mem_dataLines {fuel : ℕ} (ht : ∀ c ∈ text, IsData c) {byte : UInt8}
    (hb : byte ∈ dataLines fuel text) :
    byte.toNat < 0x80 ∧ byte ≠ 0x2d ∧ (byte = 0x0a ∨ isSpace byte = false) := by
  obtain ⟨c, hc, rfl⟩ := List.mem_map.1 hb
  rcases mem_wrap hc with rfl | hc
  · decide
  · have hdata := ht c hc
    exact ⟨(Bytes.toNat_toUInt8 hdata.ascii).trans_lt hdata.ascii, hdata.notDash,
      Or.inr hdata.notSpace⟩

lemma dataLines_cons (fuel : ℕ) (c : Char) (rest : List Char) :
    dataLines (fuel + 1) (c :: rest) = ((c :: rest).take 64).map (fun c => c.toNat.toUInt8) ++
      0x0a :: dataLines fuel ((c :: rest).drop 64) := by
  rw [dataLines, wrap, List.map_append, List.map_cons]
  · rfl
  · simp

lemma isSpace_head_dataLines {fuel : ℕ} (ht : ∀ c ∈ text, IsData c) {byte : UInt8} {rest : Bytes}
    (h : dataLines fuel text = byte :: rest) : isSpace byte = false := by
  cases fuel with
  | zero => cases h
  | succ fuel =>
    cases text with
    | nil => cases h
    | cons c others =>
      rw [dataLines_cons] at h
      obtain ⟨rfl, -⟩ := List.cons.inj h
      exact (ht c List.mem_cons_self).notSpace

lemma splitAt?_dataLines {fuel : ℕ} (ht : ∀ c ∈ text, IsData c) :
    splitAt? [0x0a, 0x0a] (dataLines fuel text) = none := by
  induction fuel generalizing text with
  | zero => rfl
  | succ fuel ih =>
    cases text with
    | nil => rfl
    | cons c rest =>
      have hline : (0x0a : UInt8) ∉ ((c :: rest).take 64).map fun c => c.toNat.toUInt8 := by
        intro hmem
        obtain ⟨d, hd, hfeed⟩ := List.mem_map.1 hmem
        have hspace := (ht d (List.mem_of_mem_take hd)).notSpace
        rw [hfeed] at hspace
        cases hspace
      have hothers : ∀ d ∈ (c :: rest).drop 64, IsData d :=
        fun d hd => ht d (List.mem_of_mem_drop hd)
      have hprefix : [0x0a, 0x0a].isPrefixOf (0x0a :: dataLines fuel ((c :: rest).drop 64)) =
          false := by
        cases hl : dataLines fuel ((c :: rest).drop 64) with
        | nil => rfl
        | cons byte others =>
          have hspace := isSpace_head_dataLines hothers hl
          have hne : byte ≠ 0x0a := by
            rintro rfl
            cases hspace
          simp [List.isPrefixOf, Ne.symm hne]
      rw [dataLines_cons, splitAt?_append_of_notMem hline, splitAt?, hprefix, ih hothers]
      rfl

lemma splitHeaders_dataLines {fuel : ℕ} (ht : ∀ c ∈ text, IsData c) :
    splitHeaders (dataLines fuel text) = ([], dataLines fuel text) := by
  have hreturn : (0x0d : UInt8) ∉ dataLines fuel text := by
    intro hmem
    obtain ⟨-, -, hfeed | hspace⟩ := mem_dataLines ht hmem
    · cases hfeed
    · cases hspace
  rw [splitHeaders, splitAt?_dataLines ht, splitAt?_eq_none_of_notMem hreturn]
  rfl

lemma readData?_dataLines {contents : Bytes} {fuel : ℕ}
    (hf : (Base64.encode .standard contents).length ≤ fuel) :
    readData? (dataLines fuel (Base64.encode .standard contents)) = some contents := by
  have ht := isData_encode contents
  have hascii : ∀ c ∈ wrap fuel (Base64.encode .standard contents), c.toNat < 0x80 := by
    intro c hc
    rcases mem_wrap hc with rfl | hc
    · decide
    · exact (ht c hc).ascii
  have hchars : Text.decodeUtf8 (dataLines fuel (Base64.encode .standard contents)) =
      wrap fuel (Base64.encode .standard contents) := by
    rw [Text.decodeUtf8_eq_toChars fun byte hb => (mem_dataLines ht hb).1]
    exact Bytes.toChars_map hascii
  rw [readData?, hchars, filter_wrap ht hf,
    Base64.decode?_encode Base64.Alphabet.standard_isProper]

/-- The lines that contents are written in. -/
def bodyOf (contents : Bytes) : Bytes :=
  dataLines (Base64.encode .standard contents).length (Base64.encode .standard contents)

/-- Labels that can be written: ASCII characters without dashes, at least one. -/
structure IsLabel (label : String) : Prop where
  nonempty : label.toList ≠ []
  ascii : ∀ c ∈ label.toList, c.toNat < 0x80
  notDash : (0x2d : UInt8) ∉ Bytes.ofAscii label

lemma lt_of_mem_write {label : String} (hl : IsLabel label) {contents : Bytes} {byte : UInt8}
    (hb : byte ∈ write label contents) : byte.toNat < 0x80 := by
  have hopening : ∀ byte ∈ opening, byte.toNat < 0x80 := Bytes.lt_of_mem_map (by simp)
  have hdashes : ∀ byte ∈ dashes, byte.toNat < 0x80 := Bytes.lt_of_mem_map (by simp)
  have hclosing : ∀ byte ∈ closing, byte.toNat < 0x80 := Bytes.lt_of_mem_map (by simp)
  have hlabel : ∀ byte ∈ Bytes.ofAscii label, byte.toNat < 0x80 := Bytes.lt_of_mem_map hl.ascii
  have hfeed : ∀ byte ∈ [(0x0a : UInt8)], byte.toNat < 0x80 := by simp
  have hbody : ∀ byte ∈ bodyOf contents, byte.toNat < 0x80 :=
    fun byte hmem => (mem_dataLines (isData_encode contents) hmem).1
  simp only [write, List.mem_append] at hb
  rcases hb with (((((((hb | hb) | hb) | hb) | hb) | hb) | hb) | hb) | hb
  · exact hopening _ hb
  · exact hlabel _ hb
  · exact hdashes _ hb
  · exact hfeed _ hb
  · exact hbody _ hb
  · exact hclosing _ hb
  · exact hlabel _ hb
  · exact hdashes _ hb
  · exact hfeed _ hb

/-- What is captured of a block that was written: nothing is behind it. -/
def captureOf (label : String) (contents : Bytes) : Capture where
  label := Bytes.ofAscii label
  closingLabel := Bytes.ofAscii label
  body := bodyOf contents
  rest := []

lemma capture?_write {label : String} (hl : IsLabel label) (contents : Bytes) :
    capture? (write label contents) = some (captureOf label contents) := by
  set body := bodyOf contents with hbody
  set ending := Bytes.ofAscii label ++ (dashes ++ [0x0a]) with hending
  have hopening : opening = 0x2d :: opening.tail := by decide +kernel
  have hdashes : dashes = 0x2d :: dashes.tail := by decide +kernel
  have hclosing : closing = 0x2d :: closing.tail := by decide +kernel
  have hwrite : write label contents = [] ++ (opening ++
      (Bytes.ofAscii label ++ (dashes ++ 0x0a :: (body ++ (closing ++ ending))))) := by
    simp [write, hbody, hending, bodyOf, dataLines]
  have hopen : splitAt? opening (write label contents) =
      some ([], Bytes.ofAscii label ++ (dashes ++ 0x0a :: (body ++ (closing ++ ending)))) := by
    rw [hwrite, hopening]
    exact splitAt?_marker List.not_mem_nil _
  have hlabel (after : Bytes) : splitAt? dashes (Bytes.ofAscii label ++ (dashes ++ after)) =
      some (Bytes.ofAscii label, after) := by
    rw [hdashes]
    exact splitAt?_marker hl.notDash _
  have hclosed : splitAt? closing (body ++ (closing ++ ending)) = some (body, ending) := by
    rw [hclosing]
    exact splitAt?_marker (fun hmem => (mem_dataLines (isData_encode contents) hmem).2.1 rfl) _
  -- The line feed behind the opening is skipped, and nothing else: no line is empty.
  have hskip : (0x0a :: (body ++ (closing ++ ending))).dropWhile isSpace =
      body ++ (closing ++ ending) := by
    have hfeed : isSpace 0x0a = true := by decide
    rw [List.dropWhile_cons_of_pos hfeed]
    cases hhead : body with
    | nil =>
      rw [List.nil_append, hclosing]
      exact List.dropWhile_cons_of_neg (by decide)
    | cons byte rest =>
      have hspace := isSpace_head_dataLines (isData_encode contents) (hbody.symm.trans hhead)
      exact List.dropWhile_cons_of_neg (by simp [hspace])
  have hend : splitAt? dashes ending = some (Bytes.ofAscii label, [0x0a]) := hlabel [0x0a]
  have hlast : [(0x0a : UInt8)].dropWhile isSpace = [] := by decide
  simp only [capture?, hopen, hlabel, hskip, hclosed, hend, hlast, Option.bind_eq_bind,
    Option.bind_some]
  rfl

lemma block?_captureOf {label : String} (hl : IsLabel label) (contents : Bytes) :
    (captureOf label contents).block? = some ⟨label.toList, [], contents⟩ := by
  have hchars : Text.decodeUtf8 (Bytes.ofAscii label) = label.toList := by
    rw [Bytes.ofAscii, Text.decodeUtf8_eq_toChars (Bytes.lt_of_mem_map hl.ascii)]
    exact Bytes.toChars_map hl.ascii
  have hnonempty : (Bytes.ofAscii label).isEmpty = false := by
    simp [Bytes.ofAscii, hl.nonempty]
  have hheaders : splitHeaders (bodyOf contents) = ([], bodyOf contents) :=
    splitHeaders_dataLines (isData_encode contents)
  have hdata : readData? (bodyOf contents) = some contents := readData?_dataLines le_rfl
  have hnone : readHeaders? [] = some [] := rfl
  simp [Capture.block?, captureOf, hnonempty, hheaders, hnone, hdata, hchars]

/-- A text that was written as a block holds this block and no other. -/
theorem blocks?_write {label : String} (hl : IsLabel label) (contents : Bytes) :
    blocks? (write label contents) = some [⟨label.toList, [], contents⟩] := by
  have hlength : ∃ fuel, (write label contents).length = fuel + 1 := by
    refine Nat.exists_eq_add_one.2 ?_
    simp [write]
  obtain ⟨fuel, hfuel⟩ := hlength
  have hend : captures fuel [] = [] := by
    cases fuel with
    | zero => rfl
    | succ fuel => rfl
  rw [blocks?, hfuel, captures, capture?_write hl]
  have hrest : (captureOf label contents).rest = [] := rfl
  simp [hrest, hend, block?_captureOf hl]

/-- A block that was written is found under its label. -/
theorem find?_write {label : String} (hl : IsLabel label) {labels : List String}
    (hm : label ∈ labels) (contents : Bytes) :
    find? labels (write label contents) = some ⟨label.toList, [], contents⟩ := by
  have hany : labels.any (·.toList == label.toList) = true :=
    List.any_eq_true.2 ⟨label, hm, beq_self_eq_true _⟩
  simp [find?, blocks?_write hl, hany]

end MockIssuer.Pem
