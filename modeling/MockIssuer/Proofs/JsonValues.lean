import MockIssuer.Proofs.NumberText

/-!
# Reading values back

A regular value names no field of an object twice, and has one number that is no number; these are
the values that the data format tells apart. Every regular value is legible, however deep it is
(`IsRegular.isLegible`), and remains regular when the fields in it are put in order.
-/
namespace MockIssuer.Json
open Number

/-- A value as the data format has it. -/
inductive IsRegular : Json → Prop
  | null : IsRegular .null
  | bool (value : Bool) : IsRegular (.bool value)
  | int (value : ℤ) : IsRegular (.int value)
  | float {value : Binary64} (hn : value.isNaN = true → value = .nan) : IsRegular (.float value)
  | string (value : String) : IsRegular (.string value)
  | array {items : List Json} (hi : ∀ item ∈ items, IsRegular item) : IsRegular (.array items)
  | object {fields : Fields} (hn : (fields.map Prod.fst).Nodup)
      (hf : ∀ field ∈ fields, IsRegular field.2) : IsRegular (.object fields)

variable {fuel : ℕ} {value : Json} {items : List Json} {fields : Fields}
  {text rest tail : List Char}

lemma readItems_last (hv : readValue fuel text = some (value, ']' :: rest)) :
    readItems (fuel + 1) text = some ([value], rest) := by
  simp [readItems, hv, skipSpace]

lemma readItems_more (hv : readValue fuel text = some (value, ',' :: rest))
    (hi : readItems fuel (skipSpace rest) = some (items, tail)) :
    readItems (fuel + 1) text = some (value :: items, tail) := by
  simp [readItems, hv, skipSpace, hi]

/-- The text of some items, from the first one to the closing bracket. -/
def itemsText (item : Json) (rest : List Json) : List Char :=
  print .compactAscii item ++ printItems .compactAscii rest

lemma print_array_cons (item : Json) (rest : List Json) :
    print .compactAscii (.array (item :: rest)) = '[' :: itemsText item rest := by
  simp [print, itemsText]

lemma printItems_cons (item : Json) (rest : List Json) :
    printItems .compactAscii (item :: rest) = ',' :: itemsText item rest := by
  simp [printItems, itemsText, Style.compactAscii]

lemma readItems_itemsText (item : Json) (rest : List Json)
    (hl : ∀ other ∈ item :: rest, IsLegible other) (tail : List Char)
    (hf : (itemsText item rest).length < fuel) :
    readItems fuel (skipSpace (itemsText item rest ++ tail)) = some (item :: rest, tail) := by
  induction rest generalizing item fuel with
  | nil =>
    obtain ⟨k, rfl⟩ : ∃ k, fuel = k + 1 := ⟨fuel - 1, by omega⟩
    have he : EndsValue (']' :: tail) := by simp [EndsValue]
    have htext : itemsText item [] = print .compactAscii item ++ [']'] := by
      simp [itemsText, printItems]
    rw [htext, List.length_append, List.length_singleton] at hf
    have hread := (hl _ List.mem_cons_self).reads k _ (by omega) he
    rw [htext, List.append_assoc]
    exact readItems_last hread
  | cons next rest ih =>
    obtain ⟨k, rfl⟩ : ∃ k, fuel = k + 1 := ⟨fuel - 1, by omega⟩
    have htext : itemsText item (next :: rest) =
        print .compactAscii item ++ ',' :: itemsText next rest := by
      rw [itemsText, printItems_cons]
    rw [htext, List.length_append, List.length_cons] at hf
    have he : EndsValue (',' :: (itemsText next rest ++ tail)) := by simp [EndsValue]
    have hread := (hl _ List.mem_cons_self).reads k _ (by omega) he
    have hh := ih next (fun other hm => hl other (List.mem_cons_of_mem _ hm))
      (show (itemsText next rest).length < k by omega)
    rw [htext, List.append_assoc, List.cons_append]
    exact readItems_more hread hh

lemma itemsText_ascii (item : Json) (rest : List Json)
    (hl : ∀ other ∈ item :: rest, IsLegible other) {c : Char} (hc : c ∈ itemsText item rest) :
    c.toNat < 0x80 := by
  induction rest generalizing item with
  | nil =>
    simp only [itemsText, printItems, List.mem_append, List.mem_singleton] at hc
    rcases hc with hc | rfl
    · exact (hl _ List.mem_cons_self).ascii c hc
    · decide
  | cons next rest ih =>
    rw [itemsText, printItems_cons, List.mem_append, List.mem_cons] at hc
    rcases hc with hc | rfl | hc
    · exact (hl _ List.mem_cons_self).ascii c hc
    · decide
    · exact ih next (fun other hm => hl other (List.mem_cons_of_mem _ hm)) hc

lemma readValue_bracket (fuel : ℕ) (text : List Char) : readValue fuel (']' :: text) = none := by
  cases fuel with
  | zero => rfl
  | succ fuel =>
    simp [readValue, readWord, expect, List.isPrefixOf, readNumber, readMagnitude, readWhole,
      takeDigits, List.span_eq_takeWhile_dropWhile]

lemma readItems_bracket (fuel : ℕ) (text : List Char) : readItems fuel (']' :: text) = none := by
  cases fuel with
  | zero => rfl
  | succ fuel => simp [readItems, readValue_bracket]

lemma isLegible_array (hl : ∀ item ∈ items, IsLegible item) : IsLegible (.array items) := by
  have hs (text : List Char) : skipSpace ('[' :: text) = '[' :: text := by simp [skipSpace]
  cases items with
  | nil =>
    constructor
    · intro c hc
      have hb : c ∈ ['[', ']'] := by simpa [print] using hc
      simp only [List.mem_cons, List.not_mem_nil, or_false] at hb
      rcases hb with rfl | rfl <;> decide
    · intro fuel rest hf _
      obtain ⟨k, rfl⟩ : ∃ k, fuel = k + 1 := ⟨fuel - 1, by omega⟩
      have hb : skipSpace (']' :: rest) = ']' :: rest := by simp [skipSpace]
      have hp : print .compactAscii (.array []) = ['[', ']'] := by simp [print]
      rw [hp, List.cons_append, hs]
      simp [readValue, hb]
  | cons item rest =>
    constructor
    · intro c hc
      rw [print_array_cons, List.mem_cons] at hc
      rcases hc with rfl | hc
      · decide
      · exact itemsText_ascii item rest hl hc
    · intro fuel tail hf _
      obtain ⟨k, rfl⟩ : ∃ k, fuel = k + 1 := ⟨fuel - 1, by omega⟩
      rw [print_array_cons, List.length_cons] at hf
      have hh := readItems_itemsText item rest hl tail (show _ < k by omega)
      rw [print_array_cons, List.cons_append, hs]
      simp only [readValue]
      split
      · next hb =>
        rw [hb, readItems_bracket] at hh
        cases hh
      · rw [hh]
        rfl

/-- A value that is read with any fuel is legible. -/
lemma isLegible_of_readValue (ha : ∀ c ∈ print .compactAscii value, c.toNat < 0x80)
    (hr : ∀ fuel rest, EndsValue rest → readValue (fuel + 1)
      (skipSpace (print .compactAscii value ++ rest)) = some (value, rest)) : IsLegible value := by
  refine ⟨ha, fun fuel rest hf he => ?_⟩
  obtain ⟨k, rfl⟩ : ∃ k, fuel = k + 1 := ⟨fuel - 1, by omega⟩
  exact hr k rest he

lemma isLegible_null : IsLegible .null := by
  refine isLegible_of_readValue (by simp [print]) fun fuel rest _ => ?_
  have hlength : "null".length = 4 := rfl
  simp [print, skipSpace, readValue, readWord, expect, List.isPrefixOf, hlength]

lemma isLegible_bool (value : Bool) : IsLegible (.bool value) := by
  cases value with
  | true =>
    refine isLegible_of_readValue (by simp [print]) fun fuel rest _ => ?_
    have hlength : "true".length = 4 := rfl
    simp [print, skipSpace, readValue, readWord, expect, List.isPrefixOf, hlength]
  | false =>
    refine isLegible_of_readValue (by simp [print]) fun fuel rest _ => ?_
    have hlength : "false".length = 5 := rfl
    simp [print, skipSpace, readValue, readWord, expect, List.isPrefixOf, hlength]

lemma isLegible_int (value : ℤ) : IsLegible (.int value) := by
  have hp : print .compactAscii (.int value) = intText value := by simp [print]
  refine isLegible_of_readValue (fun c hc => ?_) fun fuel rest he => ?_
  · rw [hp] at hc
    exact intText_ascii value c hc
  · rw [hp]
    exact readValue_intText value fuel he.endsNumber

lemma isLegible_float {value : Binary64} (hn : value.isNaN = true → value = .nan) :
    IsLegible (.float value) := by
  have hp : print .compactAscii (.float value) = floatText value := by simp [print]
  refine isLegible_of_readValue (fun c hc => ?_) fun fuel rest he => ?_
  · rw [hp] at hc
    exact floatText_ascii value c hc
  · rw [hp]
    exact readValue_floatText hn fuel he.endsNumber

/-- The text of a regular value reads back as the value. -/
theorem IsRegular.isLegible (h : IsRegular value) : IsLegible value := by
  induction h with
  | null => exact isLegible_null
  | bool value => exact isLegible_bool value
  | int value => exact isLegible_int value
  | float hn => exact isLegible_float hn
  | string value => exact isLegible_string value
  | array _ ih => exact isLegible_array ih
  | object hn _ ih => exact isLegible_object ih hn

lemma sortItems_eq_map (items : List Json) : sortItems items = items.map sortKeys := by
  induction items with
  | nil => rfl
  | cons item rest ih => rw [sortItems, ih, List.map_cons]

lemma sortFields_eq_map (fields : Fields) :
    sortFields fields = fields.map fun field => (field.1, field.2.sortKeys) := by
  induction fields with
  | nil => rfl
  | cons field rest ih => rw [sortFields, ih, List.map_cons]

/-- The fields of an object in order, each with its value in order. -/
def sortedFields (fields : Fields) : Fields :=
  (fields.map fun field => (field.1, field.2.sortKeys)).mergeSort fun a b => decide (a.1 ≤ b.1)

lemma sortKeys_object_eq (fields : Fields) :
    (Json.object fields).sortKeys = .object (sortedFields fields) := by
  rw [sortKeys, sortFields_eq_map, sortedFields]

lemma sortedFields_perm (fields : Fields) :
    (sortedFields fields).Perm (fields.map fun field => (field.1, field.2.sortKeys)) :=
  List.mergeSort_perm _ _

lemma keys_sortedFields_perm (fields : Fields) :
    ((sortedFields fields).map Prod.fst).Perm (fields.map Prod.fst) := by
  have hperm := (sortedFields_perm fields).map Prod.fst
  rw [List.map_map] at hperm
  exact hperm

/-- Putting fields in order keeps a value regular. -/
theorem IsRegular.sortKeys (h : IsRegular value) : IsRegular value.sortKeys := by
  induction h with
  | null => exact .null
  | bool value => exact .bool value
  | int value => exact .int value
  | float hn => exact .float hn
  | string value => exact .string value
  | array _ ih =>
    rw [Json.sortKeys, sortItems_eq_map]
    refine .array fun item hitem => ?_
    obtain ⟨old, hold, rfl⟩ := List.mem_map.1 hitem
    exact ih old hold
  | object hn _ ih =>
    rw [sortKeys_object_eq]
    refine .object ((keys_sortedFields_perm _).nodup_iff.2 hn) fun field hfield => ?_
    obtain ⟨old, hold, rfl⟩ := List.mem_map.1 ((sortedFields_perm _).mem_iff.1 hfield)
    exact ih old hold

end MockIssuer.Json
