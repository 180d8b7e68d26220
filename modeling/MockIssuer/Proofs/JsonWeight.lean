import MockIssuer.Proofs.JsonText

/-!
# What a text can hold

A weighing gives weights to the characters of a text and to those of the strings in a value. Where
a character of a string never weighs more than what stands for it in the text, the strings of the
value that is read weigh no more than the text (`ofJson_le_of_parse?`). So a text cannot hold a
string with more of something than the text has.
-/
namespace MockIssuer

lemma Text.eq_of_hexValue?_eq_zero {c : Char} (h : hexValue? c = some 0) : c = '0' := by
  unfold hexValue? at h
  split_ifs at h with hdigit hlower hupper
  · have hlow : 0x30 ≤ c.toNat := hdigit.1
    have hzero := Option.some.inj h
    refine Char.toNat_inj.1 ?_
    change c.toNat = 0x30
    omega
  · have hlow : 0x61 ≤ c.toNat := hlower.1
    have hzero := Option.some.inj h
    omega
  · have hlow : 0x41 ≤ c.toNat := hupper.1
    have hzero := Option.some.inj h
    omega

namespace Json

lemma eq_of_unitChar_backslash {a b c d : Char} {n : ℕ} (hu : unit? a b c d = some n)
    (hn : unitChar n = '\\') : a = '0' := by
  have hnumber : n = 0x5c := by
    unfold unitChar at hn
    split_ifs at hn with hpair
    · exact absurd hn (by decide)
    · have hcode := congrArg Char.toNat hn
      rw [Char.toNat_ofNat] at hcode
      split_ifs at hcode
      · exact hcode
      · exact absurd hcode (by decide)
  simp only [unit?, Text.hexNumber?, List.foldlM_cons, List.foldlM_nil, Option.bind_eq_bind,
    Option.bind_eq_some_iff, Option.map_eq_some_iff, Option.pure_def] at hu
  obtain ⟨_, ⟨first, hfirst, rfl⟩, _, ⟨_, -, rfl⟩, _, ⟨_, -, rfl⟩, _, ⟨_, -, rfl⟩, hsum⟩ := hu
  have hvalue := Option.some.inj hsum
  obtain rfl : first = 0 := by omega
  exact Text.eq_of_hexValue?_eq_zero hfirst

lemma eq_of_simpleEscape?_backslash {c : Char} (h : simpleEscape? c = some '\\') : c = '\\' := by
  unfold simpleEscape? at h
  split at h <;> first | rfl | exact absurd h (by decide)

/-- The characters that an escape takes from a text. A backslash is escaped by another one or by its
number, which starts with a zero. -/
lemma readEscape_cases {tail rest : List Char} {c : Char} (h : readEscape tail = some (c, rest)) :
    ∃ taken, tail = taken ++ rest ∧ (c = '\\' → '\\' ∈ taken ∨ '0' ∈ taken) := by
  unfold readEscape at h
  split at h
  · next first second third fourth more =>
    have hunit {n : ℕ} (hu : unit? first second third fourth = some n)
        (hc : some (unitChar n, more) = some (c, rest)) : ∃ taken,
        'u' :: first :: second :: third :: fourth :: more = taken ++ rest ∧
          (c = '\\' → '\\' ∈ taken ∨ '0' ∈ taken) := by
      obtain ⟨rfl, rfl⟩ := Prod.mk.inj (Option.some.inj hc)
      refine ⟨['u', first, second, third, fourth], rfl, fun hb => Or.inr ?_⟩
      rw [eq_of_unitChar_backslash hu hb]
      simp
    split at h
    · next high e f g k last hu =>
      split at h
      · split_ifs at h
        · obtain ⟨rfl, rfl⟩ := Prod.mk.inj (Option.some.inj h)
          exact ⟨['u', first, second, third, fourth, '\\', 'u', e, f, g, k], rfl,
            fun _ => Or.inl (by simp)⟩
        · exact hunit hu h
      · exact hunit hu h
    · next hu _ => exact hunit hu h
    · cases h
  · next first more _ =>
    obtain ⟨read, hread, hpair⟩ := Option.map_eq_some_iff.1 h
    obtain ⟨rfl, rfl⟩ := Prod.mk.inj hpair
    refine ⟨[first], rfl, ?_⟩
    rintro rfl
    exact Or.inl (by simp [eq_of_simpleEscape?_backslash hread])
  · cases h

/-- Weights of the characters of a text and of the strings that are read from it: no character that
is read weighs more than what stands for it in the text. -/
structure Weighing where
  text : Char → ℕ
  value : Char → ℕ
  plain : ∀ c, c ≠ '"' → c ≠ '\\' → 0x20 ≤ c.toNat → value c ≤ text c
  escape : ∀ taken c rest, readEscape (taken ++ rest) = some (c, rest) →
    value c ≤ text '\\' + (taken.map text).sum

namespace Weighing
variable (weighing : Weighing)

/-- The weight of a text. -/
def ofText (text : List Char) : ℕ := (text.map weighing.text).sum

/-- The weight of the characters of a string. -/
def ofString (text : List Char) : ℕ := (text.map weighing.value).sum

lemma ofText_cons (c : Char) (text : List Char) :
    weighing.ofText (c :: text) = weighing.text c + weighing.ofText text := by
  simp [ofText]

lemma ofText_append (first second : List Char) :
    weighing.ofText (first ++ second) = weighing.ofText first + weighing.ofText second := by
  simp [ofText]

lemma ofString_cons (c : Char) (text : List Char) :
    weighing.ofString (c :: text) = weighing.value c + weighing.ofString text := by
  simp [ofString]

lemma ofString_append (first second : List Char) :
    weighing.ofString (first ++ second) = weighing.ofString first + weighing.ofString second := by
  simp [ofString]

lemma ofText_le_of_suffix {rest text : List Char} (h : rest <:+ text) :
    weighing.ofText rest ≤ weighing.ofText text := by
  obtain ⟨front, rfl⟩ := h
  rw [ofText_append]
  omega

lemma ofString_le_of_readString {fuel : ℕ} {text read rest : List Char}
    (h : readString fuel text = some (read, rest)) :
    weighing.ofString read + weighing.ofText rest ≤ weighing.ofText text := by
  induction fuel generalizing text read with
  | zero => cases h
  | succ fuel ih =>
    have hprepend {c : Char} {more : List Char}
        (hm : prepend c (readString fuel more) = some (read, rest)) :
        weighing.ofString read + weighing.ofText rest ≤
          weighing.value c + weighing.ofText more := by
      obtain ⟨⟨tail, last⟩, hread, hpair⟩ := Option.map_eq_some_iff.1 hm
      obtain ⟨rfl, rfl⟩ := Prod.mk.inj hpair
      have hle := ih hread
      rw [ofString_cons]
      omega
    cases text with
    | nil => cases h
    | cons c more =>
      rw [readString] at h
      rw [ofText_cons]
      split_ifs at h with hquote hslash hlow
      · obtain ⟨rfl, rfl⟩ := Prod.mk.inj (Option.some.inj h)
        simp [ofString]
      · split at h
        · next d last hescape =>
          obtain ⟨taken, rfl, -⟩ := readEscape_cases hescape
          have hd := weighing.escape taken d last hescape
          have hle := hprepend h
          rw [ofText_append, hslash]
          change weighing.value d ≤ weighing.text '\\' + weighing.ofText taken at hd
          omega
        · cases h
      · have hc := weighing.plain c hquote hslash (by omega)
        have hle := hprepend h
        omega

mutual

/-- The weight of all strings in a value, without the names of fields. -/
def ofJson : Json → ℕ
  | .string text => weighing.ofString text.toList
  | .array items => ofItems items
  | .object fields => ofFields fields
  | _ => 0

def ofItems : List Json → ℕ
  | [] => 0
  | item :: rest => ofJson item + ofItems rest

def ofFields : List (String × Json) → ℕ
  | [] => 0
  | (_, value) :: rest => ofJson value + ofFields rest

end

lemma ofFields_upsert_le (name : String) (value : Json) (known : Fields) :
    weighing.ofFields (upsert name value known) ≤
      weighing.ofFields known + weighing.ofJson value := by
  induction known with
  | nil => simp [upsert, ofFields]
  | cons field rest ih =>
    obtain ⟨key, old⟩ := field
    unfold upsert
    split_ifs
    · simp only [ofFields]
      omega
    · simp only [ofFields]
      omega

lemma ofJson_le_of_lookup {name : String} {value : Json} {fields : Fields}
    (h : fields.lookup name = some value) : weighing.ofJson value ≤ weighing.ofFields fields := by
  induction fields with
  | nil => cases h
  | cons field rest ih =>
    obtain ⟨key, old⟩ := field
    rw [List.lookup_cons] at h
    rw [ofFields]
    split at h
    · obtain rfl := Option.some.inj h
      omega
    · have hle := ih h
      omega

lemma ofJson_add_le_of_lookup {name other : String} (hne : name ≠ other) {value more : Json}
    {fields : Fields} (h : fields.lookup name = some value)
    (ho : fields.lookup other = some more) :
    weighing.ofJson value + weighing.ofJson more ≤ weighing.ofFields fields := by
  induction fields with
  | nil => cases h
  | cons field rest ih =>
    obtain ⟨key, old⟩ := field
    rw [List.lookup_cons] at h ho
    rw [ofFields]
    split at h
    · next hkey =>
      obtain rfl : name = key := by simpa using hkey
      have hother : (other == name) = false := by simpa using Ne.symm hne
      rw [hother] at ho
      obtain rfl := Option.some.inj h
      have hle := weighing.ofJson_le_of_lookup ho
      omega
    · split at ho
      · obtain rfl := Option.some.inj ho
        have hle := weighing.ofJson_le_of_lookup h
        omega
      · have hle := ih h ho
        omega

lemma ofFields_fields_le (value : Json) :
    weighing.ofFields value.fields ≤ weighing.ofJson value := by
  cases value with
  | object fields => rw [ofJson, Json.fields]
  | _ => simp [Json.fields, ofFields]

lemma ofText_le_ofString (hle : ∀ c, weighing.text c ≤ weighing.value c) (text : List Char) :
    weighing.ofText text ≤ weighing.ofString text :=
  List.sum_le_sum fun c _ => hle c

/-- No character weighs more in a string than in the text, if the whole string does not. -/
lemma value_le_of_ofString_le (hle : ∀ c, weighing.text c ≤ weighing.value c) {text : List Char}
    (h : weighing.ofString text ≤ weighing.ofText text) :
    ∀ c ∈ text, weighing.value c ≤ weighing.text c := by
  intro c hc
  obtain ⟨front, back, rfl⟩ := List.append_of_mem hc
  rw [ofString_append, ofString_cons, ofText_append, ofText_cons] at h
  have hfront := weighing.ofText_le_ofString hle front
  have hback := weighing.ofText_le_ofString hle back
  omega

end Weighing

lemma skipSpace_suffix (text : List Char) : skipSpace text <:+ text := by
  induction text with
  | nil => exact List.suffix_rfl
  | cons c rest ih =>
    unfold skipSpace
    split_ifs
    · exact ih.trans (List.suffix_cons c rest)
    · exact List.suffix_rfl

lemma takeDigits_suffix {text digits rest : List Char} (h : takeDigits text = (digits, rest)) :
    rest <:+ text := by
  rw [takeDigits, List.span_eq_takeWhile_dropWhile] at h
  obtain ⟨-, rfl⟩ := Prod.mk.inj h
  exact List.dropWhile_suffix _

lemma readWhole_suffix {text digits rest : List Char} (h : readWhole text = some (digits, rest)) :
    rest <:+ text := by
  unfold readWhole at h
  split at h
  · obtain ⟨-, rfl⟩ := Prod.mk.inj (Option.some.inj h)
    exact List.suffix_cons _ _
  · split at h
    · cases h
    · next hdigits =>
      obtain ⟨-, rfl⟩ := Prod.mk.inj (Option.some.inj h)
      exact takeDigits_suffix hdigits

lemma readFraction_suffix (text : List Char) : (readFraction text).2 <:+ text := by
  unfold readFraction
  split
  · split
    · exact List.suffix_rfl
    · next hdigits => exact (takeDigits_suffix hdigits).trans (List.suffix_cons _ _)
  · exact List.suffix_rfl

lemma splitSign_suffix (text : List Char) : (Number.splitSign text).2 <:+ text := by
  unfold Number.splitSign
  split
  · exact List.suffix_cons _ _
  · exact List.suffix_cons _ _
  · exact List.suffix_rfl

lemma readPower_suffix (text : List Char) : (readPower text).2 <:+ text := by
  unfold readPower
  split
  · next e rest =>
    have hsign := splitSign_suffix rest
    split_ifs
    · simp only
      split
      · exact List.suffix_rfl
      · next hdigits =>
        exact ((takeDigits_suffix hdigits).trans hsign).trans (List.suffix_cons e rest)
    · exact List.suffix_rfl
  · exact List.suffix_rfl

lemma expect_suffix {word : String} {text rest : List Char} (h : expect word text = some rest) :
    rest <:+ text := by
  unfold expect at h
  split_ifs at h
  obtain rfl := Option.some.inj h
  exact List.drop_suffix _ _

namespace Weighing
variable (weighing : Weighing)

/-- A value without strings, which is read from the start of a text. -/
def IsBare (text : List Char) (value : Json) (rest : List Char) : Prop :=
  weighing.ofJson value = 0 ∧ rest <:+ text

lemma isBare_of_readMagnitude {negative : Bool} {text rest : List Char} {value : Json}
    (h : readMagnitude negative text = some (value, rest)) : weighing.IsBare text value rest := by
  unfold readMagnitude at h
  obtain ⟨⟨whole, first⟩, hwhole, h⟩ := Option.bind_eq_some_iff.1 h
  have hsuffix := ((readPower_suffix (readFraction first).2).trans
    (readFraction_suffix first)).trans (readWhole_suffix hwhole)
  simp only at h
  split_ifs at h
  · obtain ⟨rfl, rfl⟩ := Prod.mk.inj (Option.some.inj h)
    exact ⟨rfl, hsuffix⟩
  · obtain ⟨rfl, rfl⟩ := Prod.mk.inj (Option.some.inj h)
    exact ⟨rfl, hsuffix⟩

lemma isBare_of_readNumber {text rest : List Char} {value : Json}
    (h : readNumber text = some (value, rest)) : weighing.IsBare text value rest := by
  unfold readNumber at h
  split at h
  · obtain ⟨hvalue, hsuffix⟩ := weighing.isBare_of_readMagnitude h
    exact ⟨hvalue, hsuffix.trans (List.suffix_cons _ _)⟩
  · exact weighing.isBare_of_readMagnitude h

lemma isBare_of_readWord {text rest : List Char} {value : Json}
    (h : readWord text = some (value, rest)) : weighing.IsBare text value rest := by
  have hword {word : String} {bare : Json} (hb : weighing.ofJson bare = 0)
      (he : (expect word text).map (bare, ·) = some (value, rest)) :
      weighing.IsBare text value rest := by
    obtain ⟨last, hlast, hpair⟩ := Option.map_eq_some_iff.1 he
    obtain ⟨rfl, rfl⟩ := Prod.mk.inj hpair
    exact ⟨hb, expect_suffix hlast⟩
  unfold readWord at h
  simp only [Option.or_eq_some_iff] at h
  rcases h with h | ⟨-, h | ⟨-, h | ⟨-, h | ⟨-, h | ⟨-, h⟩⟩⟩⟩⟩
  all_goals exact hword rfl h

lemma ofText_skipSpace_le (text : List Char) :
    weighing.ofText (skipSpace text) ≤ weighing.ofText text :=
  weighing.ofText_le_of_suffix (skipSpace_suffix text)

/-- Values that are read with some fuel weigh no more than their texts. -/
def ReadsValue (fuel : ℕ) : Prop :=
  ∀ text value rest, readValue fuel text = some (value, rest) →
    weighing.ofJson value + weighing.ofText rest ≤ weighing.ofText text

/-- Items that are read with some fuel weigh no more than their texts. -/
def ReadsItems (fuel : ℕ) : Prop :=
  ∀ text items rest, readItems fuel text = some (items, rest) →
    weighing.ofItems items + weighing.ofText rest ≤ weighing.ofText text

/-- Fields that are read with some fuel add no more than their texts weigh. -/
def ReadsFields (fuel : ℕ) : Prop :=
  ∀ known text fields rest, readFields fuel known text = some (fields, rest) →
    weighing.ofFields fields + weighing.ofText rest ≤
      weighing.ofFields known + weighing.ofText text

variable {weighing} {fuel : ℕ}

lemma readsValue_succ (hitems : weighing.ReadsItems fuel) (hfields : weighing.ReadsFields fuel) :
    weighing.ReadsValue (fuel + 1) := by
  intro text value rest h
  unfold readValue at h
  split at h
  · next more =>
    obtain ⟨⟨read, last⟩, hread, hpair⟩ := Option.map_eq_some_iff.1 h
    obtain ⟨rfl, rfl⟩ := Prod.mk.inj hpair
    have hle := weighing.ofString_le_of_readString hread
    rw [ofText_cons, ofJson, String.toList_ofList]
    omega
  · next more =>
    have hspace := weighing.ofText_skipSpace_le more
    rw [ofText_cons]
    split at h
    · next last hlast =>
      obtain ⟨rfl, rfl⟩ := Prod.mk.inj (Option.some.inj h)
      rw [hlast, ofText_cons] at hspace
      simp only [ofJson, ofItems]
      omega
    · obtain ⟨⟨items, last⟩, hread, hpair⟩ := Option.map_eq_some_iff.1 h
      obtain ⟨rfl, rfl⟩ := Prod.mk.inj hpair
      have hle := hitems _ _ _ hread
      rw [ofJson]
      omega
  · next more =>
    have hspace := weighing.ofText_skipSpace_le more
    rw [ofText_cons]
    split at h
    · next last hlast =>
      obtain ⟨rfl, rfl⟩ := Prod.mk.inj (Option.some.inj h)
      rw [hlast, ofText_cons] at hspace
      simp only [ofJson, ofFields]
      omega
    · obtain ⟨⟨fields, last⟩, hread, hpair⟩ := Option.map_eq_some_iff.1 h
      obtain ⟨rfl, rfl⟩ := Prod.mk.inj hpair
      have hle := hfields _ _ _ _ hread
      rw [ofFields] at hle
      rw [ofJson]
      omega
  · have hbare : weighing.IsBare text value rest := by
      rcases Option.or_eq_some_iff.1 h with hword | ⟨-, hnumber⟩
      · exact weighing.isBare_of_readWord hword
      · exact weighing.isBare_of_readNumber hnumber
    have hle := weighing.ofText_le_of_suffix hbare.2
    rw [hbare.1]
    omega

lemma readsItems_succ (hvalue : weighing.ReadsValue fuel) (hitems : weighing.ReadsItems fuel) :
    weighing.ReadsItems (fuel + 1) := by
  intro text items rest h
  rw [readItems] at h
  obtain ⟨⟨item, more⟩, hread, h⟩ := Option.bind_eq_some_iff.1 h
  have hle := hvalue _ _ _ hread
  have hspace := weighing.ofText_skipSpace_le more
  simp only at h
  split at h
  · next last hlast =>
    obtain ⟨rfl, rfl⟩ := Prod.mk.inj (Option.some.inj h)
    rw [hlast, ofText_cons] at hspace
    simp only [ofItems]
    omega
  · next last hlast =>
    obtain ⟨⟨others, final⟩, hothers, h⟩ := Option.bind_eq_some_iff.1 h
    obtain ⟨rfl, rfl⟩ := Prod.mk.inj (Option.some.inj h)
    have hrest := hitems _ _ _ hothers
    have hmore := weighing.ofText_skipSpace_le last
    rw [hlast, ofText_cons] at hspace
    simp only [ofItems]
    omega
  · cases h

lemma readsFields_succ (hvalue : weighing.ReadsValue fuel) (hfields : weighing.ReadsFields fuel) :
    weighing.ReadsFields (fuel + 1) := by
  intro known text fields rest h
  unfold readFields at h
  split at h
  · next more =>
    obtain ⟨⟨name, behind⟩, hname, h⟩ := Option.bind_eq_some_iff.1 h
    have hnamed := weighing.ofString_le_of_readString hname
    have hspace := weighing.ofText_skipSpace_le behind
    simp only at h
    split at h
    · next colon hcolon =>
      obtain ⟨⟨value, last⟩, hread, h⟩ := Option.bind_eq_some_iff.1 h
      have hle := hvalue _ _ _ hread
      have hset := weighing.ofFields_upsert_le (String.ofList name) value known
      have hafter := weighing.ofText_skipSpace_le colon
      have hend := weighing.ofText_skipSpace_le last
      rw [hcolon, ofText_cons] at hspace
      rw [ofText_cons]
      simp only at h
      split at h
      · next final hfinal =>
        obtain ⟨rfl, rfl⟩ := Prod.mk.inj (Option.some.inj h)
        rw [hfinal, ofText_cons] at hend
        omega
      · next final hfinal =>
        have hrest := hfields _ _ _ _ h
        have hmore := weighing.ofText_skipSpace_le final
        rw [hfinal, ofText_cons] at hend
        omega
      · cases h
    · cases h
  · cases h

/-- Whatever is read weighs no more than its text. The readers of values, items and fields call each
other with less fuel, so the induction is over all three at once. -/
lemma reads (weighing : Weighing) (fuel : ℕ) :
    weighing.ReadsValue fuel ∧ weighing.ReadsItems fuel ∧ weighing.ReadsFields fuel := by
  induction fuel with
  | zero =>
    refine ⟨fun text value rest h => ?_, fun text items rest h => ?_,
      fun known text fields rest h => ?_⟩
    · rw [readValue] at h
      cases h
    · rw [readItems] at h
      cases h
    · rw [readFields] at h
      cases h
  | succ fuel ih =>
    obtain ⟨hvalue, hitems, hfields⟩ := ih
    exact ⟨readsValue_succ hitems hfields, readsItems_succ hvalue hitems,
      readsFields_succ hvalue hfields⟩

/-- The strings of a value weigh no more than the text that it is read from. -/
theorem ofJson_le_of_parse? (weighing : Weighing) {text : List Char} {value : Json}
    (h : parse? text = some value) : weighing.ofJson value ≤ weighing.ofText text := by
  unfold parse? at h
  split at h
  · next read rest hread =>
    split_ifs at h
    obtain rfl := Option.some.inj h
    obtain ⟨hvalue, -, -⟩ := reads weighing (text.length + 1)
    have hle := hvalue _ _ _ hread
    have hspace := weighing.ofText_skipSpace_le text
    omega
  · cases h

end Weighing

end Json
end MockIssuer
