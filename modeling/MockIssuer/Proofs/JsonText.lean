import Mathlib
import MockIssuer.Json.Parser
import MockIssuer.Json.Printer

/-!
# Reading JSON text back

Reading a string undoes its escapes, in both forms and beyond the basic plane too, where two units
make one character (`readString_escape`). Values whose text reads back are closed under arrays and
under objects that name no field twice, so a document is read back by putting these together.
-/
namespace MockIssuer

namespace Text

lemma foldlM_hexDigits (width n start : ℕ) :
    (hexDigits width n).foldlM (fun n c => (hexValue? c).map (16 * n + ·)) start =
      some (16 ^ width * start + n % 16 ^ width) := by
  induction width generalizing n with
  | zero => simp [hexDigits, Nat.mod_one]
  | succ width ih =>
    have hlow : n % 16 < 16 := Nat.mod_lt _ (by omega)
    have hsplit : n % 16 ^ (width + 1) = 16 * (n / 16 % 16 ^ width) + n % 16 := by
      rw [pow_succ, Nat.mul_comm, Nat.mod_mul]
      omega
    rw [hexDigits, List.foldlM_append, ih, hsplit]
    simp only [List.foldlM_cons, List.foldlM_nil, hexValue?_hexDigit hlow, Option.bind_eq_bind,
      Option.bind_some, Option.map_some, Option.pure_def, Option.some.injEq]
    ring

/-- Reading digits gives the number as far as the width holds it. -/
theorem hexNumber?_hexDigits (width n : ℕ) :
    hexNumber? (hexDigits width n) = some (n % 16 ^ width) := by
  rw [hexNumber?, foldlM_hexDigits]
  simp

end Text

namespace Json

lemma exists_hexDigits_four (n : ℕ) : ∃ a b c d, Text.hexDigits 4 n = [a, b, c, d] ∧
    unit? a b c d = some (n % 65536) := by
  refine ⟨_, _, _, _, rfl, ?_⟩
  exact Text.hexNumber?_hexDigits 4 n

lemma readEscape_unicodeEscape {n : ℕ} (hn : n < 0x10000) (hh : isHighSurrogate n = false)
    (rest : List Char) :
    readEscape ('u' :: Text.hexDigits 4 n ++ rest) = some (unitChar n, rest) := by
  obtain ⟨a, b, c, d, hd, hu⟩ := exists_hexDigits_four n
  rw [Nat.mod_eq_of_lt hn] at hu
  rw [hd]
  simp only [List.cons_append, List.nil_append, readEscape, hu]
  split
  · next hsome =>
      obtain rfl := Option.some.inj hsome
      split
      · simp [hh]
      · rfl
  · next hsome _ =>
      obtain rfl := Option.some.inj hsome
      rfl
  · next hnone => cases hnone

lemma readEscape_pair {high low : ℕ} (hh : isHighSurrogate high = true)
    (hl : isLowSurrogate low = true) (rest : List Char) :
    readEscape ('u' :: Text.hexDigits 4 high ++ unicodeEscape low ++ rest) =
      some (pairChar high low, rest) := by
  have hhn : high < 65536 := by
    simp only [isHighSurrogate, Bool.and_eq_true, decide_eq_true_eq] at hh
    omega
  have hln : low < 65536 := by
    simp only [isLowSurrogate, Bool.and_eq_true, decide_eq_true_eq] at hl
    omega
  obtain ⟨a, b, c, d, hd, hu⟩ := exists_hexDigits_four high
  obtain ⟨e, f, g, h, hd', hu'⟩ := exists_hexDigits_four low
  rw [Nat.mod_eq_of_lt hhn] at hu
  rw [Nat.mod_eq_of_lt hln] at hu'
  rw [unicodeEscape, hd, hd']
  simp [readEscape, hu, hu', hh, hl]

lemma unitChar_toNat (c : Char) (hc : c.toNat < 0x10000) :
    isHighSurrogate c.toNat = false ∧ unitChar c.toNat = c := by
  have hv : c.toNat < 0xd800 ∨ 0xdfff < c.toNat ∧ c.toNat < 0x110000 := c.valid
  have hh : isHighSurrogate c.toNat = false := by
    simp only [isHighSurrogate, Bool.and_eq_false_iff, decide_eq_false_iff_not]
    omega
  have hl : isLowSurrogate c.toNat = false := by
    simp only [isLowSurrogate, Bool.and_eq_false_iff, decide_eq_false_iff_not]
    omega
  refine ⟨hh, ?_⟩
  simp [unitChar, hh, hl]

lemma pairChar_toNat (c : Char) (hc : 0x10000 ≤ c.toNat) :
    isHighSurrogate (0xd800 + (c.toNat - 0x10000) / 0x400) = true ∧
    isLowSurrogate (0xdc00 + (c.toNat - 0x10000) % 0x400) = true ∧
    pairChar (0xd800 + (c.toNat - 0x10000) / 0x400)
      (0xdc00 + (c.toNat - 0x10000) % 0x400) = c := by
  have hv : c.toNat < 0xd800 ∨ 0xdfff < c.toNat ∧ c.toNat < 0x110000 := c.valid
  refine ⟨?_, ?_, ?_⟩
  · simp only [isHighSurrogate, Bool.and_eq_true, decide_eq_true_eq]
    omega
  · simp only [isLowSurrogate, Bool.and_eq_true, decide_eq_true_eq]
    omega
  · have hn : 0x10000 + (0xd800 + (c.toNat - 0x10000) / 0x400 - 0xd800) * 0x400 +
        (0xdc00 + (c.toNat - 0x10000) % 0x400 - 0xdc00) = c.toNat := by omega
    rw [pairChar, hn, Char.ofNat_toNat]

/-- A character is escaped by a letter, by its number, or not at all. -/
lemma escapeChar_forms (ascii : Bool) (c : Char) :
    (∃ letter : Char, escapeChar ascii c = ['\\', letter] ∧ letter.toNat < 0x80 ∧
      ∀ rest, readEscape (letter :: rest) = some (c, rest)) ∨
    (c.toNat < 0x20 ∧ escapeChar ascii c = unicodeEscape c.toNat) ∨
    (escapeChar ascii c = escapeUnits c) ∨
    (escapeChar ascii c = [c] ∧ c ≠ '"' ∧ c ≠ '\\' ∧ 0x20 ≤ c.toNat ∧
      (ascii = true → c.toNat < 0x80)) := by
  have hread {letter d : Char} (h : simpleEscape? letter = some d) (hd : d = c)
      (hu : letter ≠ 'u') (rest : List Char) : readEscape (letter :: rest) = some (c, rest) := by
    rw [readEscape, h, hd, Option.map_some]
    rintro a b e f tail hletter -
    exact hu hletter
  have hlow {n : ℕ} (h : c.toNat = n) : Char.ofNat n = c := by rw [← h, Char.ofNat_toNat]
  unfold escapeChar
  by_cases h1 : c = '"'
  · rw [if_pos h1]
    exact Or.inl ⟨'"', rfl, by decide, hread rfl h1.symm (by decide)⟩
  by_cases h2 : c = '\\'
  · rw [if_neg h1, if_pos h2]
    exact Or.inl ⟨'\\', rfl, by decide, hread rfl h2.symm (by decide)⟩
  by_cases h3 : c = '\n'
  · rw [if_neg h1, if_neg h2, if_pos h3]
    exact Or.inl ⟨'n', rfl, by decide, hread rfl h3.symm (by decide)⟩
  by_cases h4 : c = '\r'
  · rw [if_neg h1, if_neg h2, if_neg h3, if_pos h4]
    exact Or.inl ⟨'r', rfl, by decide, hread rfl h4.symm (by decide)⟩
  by_cases h5 : c = '\t'
  · rw [if_neg h1, if_neg h2, if_neg h3, if_neg h4, if_pos h5]
    exact Or.inl ⟨'t', rfl, by decide, hread rfl h5.symm (by decide)⟩
  rw [if_neg h1, if_neg h2, if_neg h3, if_neg h4, if_neg h5]
  by_cases h6 : c.toNat = 0x08
  · rw [if_pos h6]
    exact Or.inl ⟨'b', rfl, by decide, hread rfl (hlow h6) (by decide)⟩
  by_cases h7 : c.toNat = 0x0c
  · rw [if_neg h6, if_pos h7]
    exact Or.inl ⟨'f', rfl, by decide, hread rfl (hlow h7) (by decide)⟩
  rw [if_neg h6, if_neg h7]
  by_cases h8 : c.toNat < 0x20
  · rw [if_pos h8]
    exact Or.inr (Or.inl ⟨h8, rfl⟩)
  rw [if_neg h8]
  by_cases h9 : ascii = true ∧ 0x7f ≤ c.toNat
  · rw [if_pos h9]
    exact Or.inr (Or.inr (Or.inl rfl))
  · rw [if_neg h9]
    refine Or.inr (Or.inr (Or.inr ⟨rfl, h1, h2, by omega, fun ha => ?_⟩))
    by_contra hlt
    exact h9 ⟨ha, by omega⟩

/-- A character stands for itself, or a backslash and what reads back as the character do. -/
lemma escapeChar_cases (ascii : Bool) (c : Char) :
    (escapeChar ascii c = [c] ∧ c ≠ '"' ∧ c ≠ '\\' ∧ 0x20 ≤ c.toNat) ∨
    ∃ tail, escapeChar ascii c = '\\' :: tail ∧
      ∀ rest, readEscape (tail ++ rest) = some (c, rest) := by
  rcases escapeChar_forms ascii c with ⟨letter, he, -, hread⟩ | ⟨hlow, he⟩ | he |
    ⟨he, hq, hb, hc, -⟩
  · exact Or.inr ⟨[letter], he, hread⟩
  · obtain ⟨hh, hc⟩ := unitChar_toNat c (by omega)
    refine Or.inr ⟨_, he, fun rest => ?_⟩
    rw [readEscape_unicodeEscape (by omega) hh, hc]
  · rw [he]
    unfold escapeUnits
    split_ifs with hn
    · obtain ⟨hh, hc⟩ := unitChar_toNat c hn
      refine Or.inr ⟨_, rfl, fun rest => ?_⟩
      rw [readEscape_unicodeEscape hn hh, hc]
    · obtain ⟨hh, hl, hc⟩ := pairChar_toNat c (by omega)
      refine Or.inr ⟨_, rfl, fun rest => ?_⟩
      rw [List.append_eq, readEscape_pair hh hl, hc]
  · exact Or.inl ⟨he, hq, hb, hc⟩

/-- Reading a string up to its closing quote undoes the escapes. -/
theorem readString_escape (ascii : Bool) (text rest : List Char) {fuel : ℕ}
    (hf : text.length < fuel) :
    readString fuel (text.flatMap (escapeChar ascii) ++ '"' :: rest) = some (text, rest) := by
  induction text generalizing fuel with
  | nil =>
    obtain ⟨k, rfl⟩ : ∃ k, fuel = k + 1 := ⟨fuel - 1, by simp at hf; omega⟩
    simp [readString]
  | cons c text ih =>
    obtain ⟨k, rfl⟩ : ∃ k, fuel = k + 1 := ⟨fuel - 1, by omega⟩
    have hk : text.length < k := by simpa using hf
    rw [List.flatMap_cons, List.append_assoc]
    rcases escapeChar_cases ascii c with ⟨he, hq, hb, hc⟩ | ⟨tail, he, hread⟩
    · have hc' : ¬ c.toNat < 0x20 := by omega
      rw [he, List.singleton_append, readString, if_neg hq, if_neg hb, if_neg hc', ih hk]
      rfl
    · have hq : ('\\' : Char) ≠ '"' := by decide
      rw [he, List.cons_append, readString, if_neg hq, if_pos rfl, hread]
      simp only [ih hk]
      rfl

lemma length_le_flatMap_escapeChar (ascii : Bool) (text : List Char) :
    text.length ≤ (text.flatMap (escapeChar ascii)).length := by
  induction text with
  | nil => simp
  | cons c text ih =>
    have hc : 1 ≤ (escapeChar ascii c).length := by
      rcases escapeChar_cases ascii c with ⟨he, -⟩ | ⟨tail, he, -⟩ <;> simp [he]
    rw [List.flatMap_cons, List.length_append, List.length_cons]
    omega

/-- The fuel that the reader gives a string is enough. -/
lemma readString_stringText (ascii : Bool) (text rest : List Char) :
    readString (text.flatMap (escapeChar ascii) ++ '"' :: rest).length
      (text.flatMap (escapeChar ascii) ++ '"' :: rest) = some (text, rest) := by
  have hle := length_le_flatMap_escapeChar ascii text
  refine readString_escape ascii text rest ?_
  rw [List.length_append, List.length_cons]
  omega

lemma unicodeEscape_ascii {n : ℕ} {c : Char} (hc : c ∈ unicodeEscape n) : c.toNat < 0x80 := by
  have hdigit : ∀ k : Fin 16, (Text.hexDigit k).toNat < 0x80 := by decide
  have hlow (m : ℕ) : (Text.hexDigit (m % 16)).toNat < 0x80 := hdigit ⟨m % 16, by omega⟩
  simp only [unicodeEscape, Text.hexDigits, List.nil_append, List.mem_cons, List.cons_append,
    List.not_mem_nil, or_false] at hc
  rcases hc with rfl | rfl | rfl | rfl | rfl | rfl
  · decide
  · decide
  all_goals exact hlow _

lemma escapeChar_ascii {c d : Char} (hd : d ∈ escapeChar true c) : d.toNat < 0x80 := by
  rcases escapeChar_forms true c with ⟨letter, he, hletter, -⟩ | ⟨-, he⟩ | he | ⟨he, -, -, -, hc⟩
  · rw [he, List.mem_pair] at hd
    rcases hd with rfl | rfl
    · decide
    · exact hletter
  · rw [he] at hd
    exact unicodeEscape_ascii hd
  · rw [he] at hd
    unfold escapeUnits at hd
    split_ifs at hd
    · exact unicodeEscape_ascii hd
    · rcases List.mem_append.mp hd with hm | hm
      · exact unicodeEscape_ascii hm
      · exact unicodeEscape_ascii hm
  · rw [he] at hd
    obtain rfl := List.mem_singleton.mp hd
    exact hc rfl

lemma stringText_ascii {text : List Char} {c : Char} (hc : c ∈ stringText true text) :
    c.toNat < 0x80 := by
  simp only [stringText, List.cons_append, List.mem_cons, List.mem_append, List.mem_flatMap,
    List.not_mem_nil, or_false] at hc
  rcases hc with rfl | ⟨d, -, hd⟩ | rfl
  · decide
  · exact escapeChar_ascii hd
  · decide

/-- What may follow a value inside another one, or nothing at all. -/
def EndsValue (rest : List Char) : Prop :=
  ∀ c ∈ rest.head?, c = ',' ∨ c = ']' ∨ c = '}'

/-- The text of a value in ASCII reads back as the value, whatever may follow it. -/
structure IsLegible (value : Json) : Prop where
  ascii : ∀ c ∈ print .compactAscii value, c.toNat < 0x80
  reads : ∀ fuel rest, (print .compactAscii value).length < fuel → EndsValue rest →
    readValue fuel (skipSpace (print .compactAscii value ++ rest)) = some (value, rest)

lemma skipSpace_quote (text : List Char) : skipSpace ('"' :: text) = '"' :: text := by
  simp [skipSpace]

lemma readValue_stringText (fuel : ℕ) (ascii : Bool) (text rest : List Char) :
    readValue (fuel + 1) (stringText ascii text ++ rest) =
      some (.string (String.ofList text), rest) := by
  simp only [stringText, List.cons_append, List.append_assoc, List.nil_append, readValue,
    readString_stringText, Option.map_some]

lemma isLegible_string (text : String) : IsLegible (.string text) := by
  constructor
  · exact fun c hc => stringText_ascii hc
  · intro fuel rest hf _
    obtain ⟨k, rfl⟩ : ∃ k, fuel = k + 1 := ⟨fuel - 1, by omega⟩
    have hp : print .compactAscii (.string text) = stringText true text.toList := rfl
    have hs : skipSpace (stringText true text.toList ++ rest) =
        stringText true text.toList ++ rest := skipSpace_quote _
    rw [hp, hs, readValue_stringText, String.ofList_toList]

lemma upsert_of_notMem {α : Type} {name : String} {fields : List (String × α)}
    (hn : name ∉ fields.map Prod.fst) (value : α) :
    upsert name value fields = fields ++ [(name, value)] := by
  induction fields with
  | nil => rfl
  | cons field rest ih =>
    simp only [List.map_cons, List.mem_cons, not_or] at hn
    rw [upsert, if_neg (Ne.symm hn.1), ih hn.2]
    rfl

/-- The text of some fields, from the first name to the closing brace. -/
def fieldsText (name : String) (value : Json) (rest : Fields) : List Char :=
  stringText true name.toList ++ [':'] ++ print .compactAscii value ++
    printFields .compactAscii rest

lemma print_object_cons (name : String) (value : Json) (rest : Fields) :
    print .compactAscii (.object ((name, value) :: rest)) = '{' :: fieldsText name value rest := by
  simp [print, fieldsText, Style.compactAscii]

lemma printFields_cons (name : String) (value : Json) (rest : Fields) :
    printFields .compactAscii ((name, value) :: rest) = ',' :: fieldsText name value rest := by
  simp [printFields, fieldsText, Style.compactAscii]

/-- Reading what follows the value of a field. -/
def readMoreFields (fuel : ℕ) (known : Fields) (text : List Char) : Option (Fields × List Char) :=
  match skipSpace text with
  | '}' :: rest => some (known, rest)
  | ',' :: rest => readFields fuel known (skipSpace rest)
  | _ => none

lemma readMoreFields_brace (fuel : ℕ) (known : Fields) (rest : List Char) :
    readMoreFields fuel known ('}' :: rest) = some (known, rest) := by
  simp [readMoreFields, skipSpace]

lemma readMoreFields_comma (fuel : ℕ) (known : Fields) (rest : List Char) :
    readMoreFields fuel known (',' :: rest) = readFields fuel known (skipSpace rest) := by
  simp [readMoreFields, skipSpace]

/-- Reading a field whose value can be read, up to what follows the value. -/
lemma readFields_field (ascii : Bool) (name : String) {value : Json} (known : Fields) {fuel : ℕ}
    {text rest : List Char} (hv : readValue fuel (skipSpace text) = some (value, rest)) :
    readFields (fuel + 1) known (stringText ascii name.toList ++ ':' :: text) =
      readMoreFields fuel (upsert name value known) rest := by
  have hc : skipSpace (':' :: text) = ':' :: text := by simp [skipSpace]
  simp only [stringText, List.cons_append, List.append_assoc, List.nil_append, readFields,
    readString_stringText, Option.bind_eq_bind, Option.bind_some, hc, hv, String.ofList_toList]
  rfl

lemma readFields_string (ascii : Bool) (name value : String) (known : Fields) (fuel : ℕ)
    (rest : List Char) :
    readFields (fuel + 2) known
        (stringText ascii name.toList ++ ':' :: (stringText ascii value.toList ++ rest)) =
      readMoreFields (fuel + 1) (upsert name (.string value) known) rest := by
  have hs : skipSpace (stringText ascii value.toList ++ rest) =
      stringText ascii value.toList ++ rest := skipSpace_quote _
  have hread := readValue_stringText fuel ascii value.toList rest
  rw [String.ofList_toList, ← hs] at hread
  exact readFields_field ascii name known hread

lemma length_print_lt {name : String} {value : Json} {rest : Fields} {fuel : ℕ}
    (hf : (fieldsText name value rest).length < fuel + 1) :
    (print .compactAscii value).length < fuel := by
  simp only [fieldsText, stringText, List.length_append, List.length_cons] at hf
  omega

lemma notMem_of_nodup {known rest : Fields} {name : String} {value : Json}
    (hn : ((known ++ (name, value) :: rest).map Prod.fst).Nodup) : name ∉ known.map Prod.fst := by
  rw [List.map_append, List.nodup_append] at hn
  exact fun h => hn.2.2 name h name (by simp) rfl

lemma readFields_fieldsText (name : String) (value : Json) (rest known : Fields)
    (hl : ∀ field ∈ (name, value) :: rest, IsLegible field.2)
    (hn : ((known ++ (name, value) :: rest).map Prod.fst).Nodup) (tail : List Char) {fuel : ℕ}
    (hf : (fieldsText name value rest).length < fuel) :
    readFields fuel known (fieldsText name value rest ++ tail) =
      some (known ++ (name, value) :: rest, tail) := by
  induction rest generalizing name value known fuel with
  | nil =>
    obtain ⟨k, rfl⟩ : ∃ k, fuel = k + 1 := ⟨fuel - 1, by omega⟩
    have he : EndsValue ('}' :: tail) := by simp [EndsValue]
    have hread := (hl _ List.mem_cons_self).reads k _ (length_print_lt hf) he
    have hh := readFields_field true name known hread
    rw [readMoreFields_brace] at hh
    rw [← upsert_of_notMem (notMem_of_nodup hn) value]
    simpa [fieldsText, printFields] using hh
  | cons field rest ih =>
    obtain ⟨next, item⟩ := field
    obtain ⟨k, rfl⟩ : ∃ k, fuel = k + 1 := ⟨fuel - 1, by omega⟩
    set more := fieldsText next item rest ++ tail with hmore
    have he : EndsValue (',' :: more) := by simp [EndsValue]
    have hread := (hl _ List.mem_cons_self).reads k _ (length_print_lt hf) he
    have hq : skipSpace more = more := skipSpace_quote _
    have hh := readFields_field true name known hread
    rw [readMoreFields_comma, hq, upsert_of_notMem (notMem_of_nodup hn) value] at hh
    have htext : fieldsText name value ((next, item) :: rest) ++ tail =
        stringText true name.toList ++ ':' :: (print .compactAscii value ++ ',' :: more) := by
      simp [fieldsText, printFields_cons, hmore]
    have hk : (fieldsText next item rest).length < k := by
      have hlen := congrArg List.length htext
      simp only [hmore, List.length_append, List.length_cons, stringText] at hlen
      omega
    have hlist : known ++ (name, value) :: (next, item) :: rest =
        known ++ [(name, value)] ++ (next, item) :: rest := by simp
    rw [htext, hh, hmore, hlist]
    rw [hlist] at hn
    exact ih next item (known ++ [(name, value)])
      (fun field hm => hl field (List.mem_cons_of_mem _ hm)) hn hk

lemma fieldsText_ascii (name : String) (value : Json) (rest : Fields)
    (hl : ∀ field ∈ (name, value) :: rest, IsLegible field.2) {c : Char}
    (hc : c ∈ fieldsText name value rest) : c.toNat < 0x80 := by
  induction rest generalizing name value with
  | nil =>
    simp only [fieldsText, printFields, List.mem_append, List.mem_singleton] at hc
    rcases hc with ((hc | rfl) | hc) | rfl
    · exact stringText_ascii hc
    · decide
    · exact (hl _ List.mem_cons_self).ascii c hc
    · decide
  | cons field rest ih =>
    obtain ⟨next, item⟩ := field
    simp only [fieldsText, List.mem_append, List.mem_singleton] at hc
    rcases hc with ((hc | rfl) | hc) | hc
    · exact stringText_ascii hc
    · decide
    · exact (hl _ List.mem_cons_self).ascii c hc
    · rw [printFields_cons, List.mem_cons] at hc
      rcases hc with rfl | hc
      · decide
      · exact ih next item (fun field hm => hl field (List.mem_cons_of_mem _ hm)) hc

/-- An object that names no field twice is legible if its values are. -/
lemma isLegible_object {fields : Fields} (hl : ∀ field ∈ fields, IsLegible field.2)
    (hn : (fields.map Prod.fst).Nodup) : IsLegible (.object fields) := by
  have hs (text : List Char) : skipSpace ('{' :: text) = '{' :: text := by simp [skipSpace]
  cases fields with
  | nil =>
    constructor
    · intro c hc
      have hb : c ∈ ['{', '}'] := by simpa [print] using hc
      simp only [List.mem_cons, List.not_mem_nil, or_false] at hb
      rcases hb with rfl | rfl <;> decide
    · intro fuel rest hf _
      obtain ⟨k, rfl⟩ : ∃ k, fuel = k + 1 := ⟨fuel - 1, by omega⟩
      have hb : skipSpace ('}' :: rest) = '}' :: rest := by simp [skipSpace]
      have hp : print .compactAscii (.object []) = ['{', '}'] := by simp [print]
      rw [hp, List.cons_append, hs]
      simp [readValue, hb]
  | cons field rest =>
    obtain ⟨name, value⟩ := field
    constructor
    · intro c hc
      rw [print_object_cons, List.mem_cons] at hc
      rcases hc with rfl | hc
      · decide
      · exact fieldsText_ascii name value rest hl hc
    · intro fuel tail hf _
      obtain ⟨k, rfl⟩ : ∃ k, fuel = k + 1 := ⟨fuel - 1, by omega⟩
      rw [print_object_cons, List.length_cons] at hf
      have hq : skipSpace (fieldsText name value rest ++ tail) =
          fieldsText name value rest ++ tail := skipSpace_quote _
      have hk : (fieldsText name value rest).length < k := by omega
      have hh := readFields_fieldsText name value rest [] hl hn tail hk
      rw [List.nil_append] at hh
      rw [print_object_cons, List.cons_append, hs]
      simp only [readValue, hq]
      split
      · next hb =>
        simp [fieldsText, stringText] at hb
      · rw [hh]
        rfl

/-- The text of a legible value is read as a whole. -/
theorem parse?_print {value : Json} (hl : IsLegible value) :
    parse? (print .compactAscii value) = some value := by
  have he : EndsValue [] := by simp [EndsValue]
  have hh := hl.reads ((print .compactAscii value).length + 1) [] (by omega) he
  rw [List.append_nil] at hh
  rw [parse?, hh]
  simp [skipSpace]

end Json
end MockIssuer
