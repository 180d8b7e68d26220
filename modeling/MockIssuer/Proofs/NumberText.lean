import MockIssuer.Proofs.JsonText
import MockIssuer.Proofs.ShortestDecimal

/-!
# Reading number text back

The text of an integer reads back as the integer. The text of a double-precision number is a run of
digits with a point among or beside them, or with an exponent behind them; in every layout it stands
for the same decimal number, and this one reads back as the number that was written
(`readMagnitude_magnitudeText`).
-/
namespace MockIssuer

lemma Text.exists_dropRightWhile_zero (text : List Char) :
    ∃ zeros, text = dropRightWhile (· == '0') text ++ List.replicate zeros '0' := by
  refine ⟨(text.reverse.takeWhile (· == '0')).length, ?_⟩
  have hzeros : text.reverse.takeWhile (· == '0') =
      List.replicate (text.reverse.takeWhile (· == '0')).length '0' := by
    refine List.eq_replicate_iff.2 ⟨rfl, fun c hc => ?_⟩
    simpa using List.mem_takeWhile_imp hc
  have hcut := List.takeWhile_append_dropWhile (p := (· == '0')) (l := text.reverse)
  rw [hzeros] at hcut
  have hback := congrArg List.reverse hcut
  rw [List.reverse_append, List.reverse_replicate, List.reverse_reverse] at hback
  exact hback.symm

namespace Json
open Number

lemma ofDigits_digitValues (digits : List Char) :
    ofDigits (digitValues digits) = Nat.ofDigitChars 10 digits 0 := by
  rw [ofDigits, digitValues, List.foldl_map, Nat.ofDigitChars_eq_foldl]
  rfl

lemma ofParts_digitValues (negative : Bool) (whole fraction : List Char) (exponent : ℤ) :
    ofParts negative (digitValues whole) (digitValues fraction) exponent =
      .ofDecimal negative (Nat.ofDigitChars 10 (whole ++ fraction) 0)
        (exponent - fraction.length) := by
  have happend : digitValues whole ++ digitValues fraction = digitValues (whole ++ fraction) :=
    List.map_append.symm
  have hlength : (digitValues fraction).length = fraction.length := List.length_map _
  rw [ofParts, happend, ofDigits_digitValues, hlength]

/-- A run of digits that the reader takes for the part before the point. -/
structure IsWhole (digits : List Char) : Prop where
  allDigits : ∀ c ∈ digits, c.isDigit = true
  ne_nil : digits ≠ []
  zero : digits.head? = some '0' → digits = ['0']

lemma isDigit_zeros {count : ℕ} : ∀ c ∈ List.replicate count '0', c.isDigit = true := by
  intro c hc
  rw [List.eq_of_mem_replicate hc]
  rfl

lemma isWhole_zero : IsWhole ['0'] :=
  ⟨@isDigit_zeros 1, List.cons_ne_nil _ _, fun _ => rfl⟩

/-- What cannot continue a number. -/
def EndsNumber (rest : List Char) : Prop :=
  ∀ c ∈ rest.head?, c.isDigit = false ∧ c ≠ '.' ∧ c ≠ 'e' ∧ c ≠ 'E'

lemma EndsValue.endsNumber {rest : List Char} (h : EndsValue rest) : EndsNumber rest := by
  intro c hc
  rcases h c hc with rfl | rfl | rfl <;> decide

variable {negative : Bool} {digits whole fraction rest : List Char}

lemma takeDigits_append (hd : ∀ c ∈ digits, c.isDigit = true)
    (hr : ∀ c ∈ rest.head?, c.isDigit = false) : takeDigits (digits ++ rest) = (digits, rest) := by
  have hstop : rest.takeWhile Char.isDigit = [] ∧ rest.dropWhile Char.isDigit = rest := by
    cases rest with
    | nil => exact ⟨rfl, rfl⟩
    | cons c tail =>
      have hc := hr c rfl
      simp [hc]
  rw [takeDigits, List.span_eq_takeWhile_dropWhile, List.takeWhile_append_of_pos hd,
    List.dropWhile_append_of_pos hd, hstop.1, hstop.2, List.append_nil]

lemma readWhole_append (hw : IsWhole whole) (hr : ∀ c ∈ rest.head?, c.isDigit = false) :
    readWhole (whole ++ rest) = some (whole, rest) := by
  have hcut := takeDigits_append hw.allDigits hr
  unfold readWhole
  split
  · next tail htail =>
    have hhead : whole.head? = some '0' := by
      cases hwhole : whole with
      | nil => exact absurd hwhole hw.ne_nil
      | cons c others =>
        rw [hwhole, List.cons_append] at htail
        rw [(List.cons.inj htail).1]
        rfl
    rw [hw.zero hhead, List.singleton_append] at htail
    rw [hw.zero hhead, (List.cons.inj htail).2]
  · rw [hcut]
    split
    · next heq =>
      exact absurd (Prod.mk.inj heq).1 hw.ne_nil
    · next heq =>
      obtain ⟨rfl, rfl⟩ := Prod.mk.inj heq
      rfl

lemma readFraction_point (hd : ∀ c ∈ fraction, c.isDigit = true) (hne : fraction ≠ [])
    (hr : ∀ c ∈ rest.head?, c.isDigit = false) :
    readFraction ('.' :: (fraction ++ rest)) = (some fraction, rest) := by
  simp only [readFraction, takeDigits_append hd hr]

lemma readFraction_of_ne (hr : ∀ c ∈ rest.head?, c ≠ '.') : readFraction rest = (none, rest) := by
  unfold readFraction
  split
  · exact absurd rfl (hr '.' rfl)
  · rfl

lemma readPower_of_ends (hr : EndsNumber rest) : readPower rest = (none, rest) := by
  cases rest with
  | nil => rfl
  | cons c tail =>
    obtain ⟨-, -, he, hE⟩ := hr c rfl
    simp [readPower, he, hE]

lemma readPower_mark (isNegative : Bool) (hd : ∀ c ∈ digits, c.isDigit = true) (hne : digits ≠ [])
    (hr : EndsNumber rest) :
    readPower ('e' :: (if isNegative then '-' else '+') :: (digits ++ rest)) =
      (some (withSign isNegative (Nat.ofDigitChars 10 digits 0)), rest) := by
  have hcut := takeDigits_append hd fun c hc => (hr c hc).1
  have hsign : splitSign ((if isNegative then '-' else '+') :: (digits ++ rest)) =
      (isNegative, digits ++ rest) := by
    cases isNegative <;> rfl
  simp only [readPower, beq_self_eq_true, Bool.true_or, if_true, hsign, hcut]
  rw [ofDigits_digitValues]

/-- A number without a point and an exponent is an integer. -/
lemma readMagnitude_whole (hw : IsWhole whole) (hr : EndsNumber rest) :
    readMagnitude negative (whole ++ rest) =
      some (.int (withSign negative (Nat.ofDigitChars 10 whole 0)), rest) := by
  have hwhole := readWhole_append hw fun c hc => (hr c hc).1
  have hfraction := readFraction_of_ne fun c hc => (hr c hc).2.1
  simp [readMagnitude, hwhole, hfraction, readPower_of_ends hr, ofDigits_digitValues]

/-- A number with a point or an exponent is a double-precision one. -/
lemma readMagnitude_float {text rest₁ rest₂ rest₃ : List Char} {fraction? : Option (List Char)}
    {power? : Option ℤ} (hwhole : readWhole text = some (whole, rest₁))
    (hfraction : readFraction rest₁ = (fraction?, rest₂))
    (hpower : readPower rest₂ = (power?, rest₃))
    (hfloat : (fraction?.isNone && power?.isNone) = false) :
    readMagnitude negative text =
      some (.float (.ofDecimal negative (Nat.ofDigitChars 10 (whole ++ fraction?.getD []) 0)
        (power?.getD 0 - (fraction?.getD []).length)), rest₃) := by
  simp only [readMagnitude, hwhole, Option.bind_eq_bind, Option.bind_some, hfraction, hpower,
    hfloat, ofParts_digitValues]
  rfl

lemma readMagnitude_point (negative : Bool) (hw : IsWhole whole)
    (hd : ∀ c ∈ fraction, c.isDigit = true) (hne : fraction ≠ []) (hr : EndsNumber rest) :
    readMagnitude negative (whole ++ '.' :: (fraction ++ rest)) =
      some (.float (.ofDecimal negative (Nat.ofDigitChars 10 (whole ++ fraction) 0)
        (0 - fraction.length)), rest) := by
  have hpoint : ∀ c ∈ ('.' :: (fraction ++ rest)).head?, c.isDigit = false := by
    intro c hc
    obtain rfl := Option.some.inj hc
    rfl
  exact readMagnitude_float (readWhole_append hw hpoint)
    (readFraction_point hd hne fun c hc => (hr c hc).1) (readPower_of_ends hr) rfl

/-- A number with an exponent has a point too, unless it has a single digit. -/
lemma readMagnitude_power (negative isNegative : Bool) {first : Char} {power : List Char}
    (hw : IsWhole [first]) (hd : ∀ c ∈ fraction, c.isDigit = true)
    (hp : ∀ c ∈ power, c.isDigit = true) (hne : power ≠ []) (hr : EndsNumber rest) :
    readMagnitude negative ([first] ++ ((if fraction.isEmpty then [] else '.' :: fraction) ++
        'e' :: (if isNegative then '-' else '+') :: (power ++ rest))) =
      some (.float (.ofDecimal negative (Nat.ofDigitChars 10 ([first] ++ fraction) 0)
        (withSign isNegative (Nat.ofDigitChars 10 power 0) - fraction.length)), rest) := by
  have hpower := readPower_mark isNegative hp hne hr
  set mark := 'e' :: (if isNegative then '-' else '+') :: (power ++ rest)
  have hend (c : Char) (hc : c ∈ mark.head?) : c = 'e' := (Option.some.inj hc).symm
  have hdigit : ∀ c ∈ mark.head?, c.isDigit = false := by
    intro c hc
    rw [hend c hc]
    rfl
  have hstop : ∀ c ∈ mark.head?, c ≠ '.' := by
    intro c hc
    rw [hend c hc]
    decide
  cases fraction with
  | nil =>
    exact readMagnitude_float (readWhole_append hw hdigit) (readFraction_of_ne hstop) hpower rfl
  | cons c others =>
    have hpoint : ∀ d ∈ ('.' :: (c :: others ++ mark)).head?, d.isDigit = false := by
      intro d hd
      obtain rfl := Option.some.inj hd
      rfl
    exact readMagnitude_float (readWhole_append hw hpoint)
      (readFraction_point hd (List.cons_ne_nil c others) hdigit) hpower rfl

/-- Digits of which the first one is not zero. -/
structure IsDigits (digits : List Char) : Prop where
  allDigits : ∀ c ∈ digits, c.isDigit = true
  ne_nil : digits ≠ []
  head_ne : digits.head? ≠ some '0'

namespace IsDigits

lemma isWhole (h : IsDigits digits) : IsWhole digits :=
  ⟨h.allDigits, h.ne_nil, fun hzero => absurd hzero h.head_ne⟩

lemma take (h : IsDigits digits) (size : ℕ) (hs : size ≠ 0) : IsDigits (digits.take size) where
  allDigits c hc := h.allDigits c (List.mem_of_mem_take hc)
  ne_nil hnil := (List.take_eq_nil_iff.1 hnil).elim hs h.ne_nil
  head_ne := by
    rw [List.head?_take, if_neg hs]
    exact h.head_ne

lemma append (h : IsDigits digits) {others : List Char} (ho : ∀ c ∈ others, c.isDigit = true) :
    IsDigits (digits ++ others) where
  allDigits c hc := (List.mem_append.1 hc).elim (h.allDigits c) (ho c)
  ne_nil hnil := h.ne_nil (List.append_eq_nil_iff.1 hnil).1
  head_ne := by
    rw [List.head?_append_of_ne_nil _ h.ne_nil]
    exact h.head_ne

end IsDigits

lemma readMagnitude_pointedText (hd : IsDigits digits) (point : ℤ) (hr : EndsNumber rest) :
    readMagnitude negative (Binary64.pointedText digits point ++ rest) =
      some (.float (.ofDecimal negative (Nat.ofDigitChars 10 digits 0) (point - digits.length)),
        rest) := by
  unfold Binary64.pointedText
  split_ifs with hfront hinside
  · -- The point and some zeros stand before the digits.
    have hall : ∀ c ∈ List.replicate (-point).toNat '0' ++ digits, c.isDigit = true := by
      intro c hc
      rcases List.mem_append.1 hc with hzero | hdigit
      · exact isDigit_zeros c hzero
      · exact hd.allDigits c hdigit
    have hne : List.replicate (-point).toNat '0' ++ digits ≠ [] := by simp [hd.ne_nil]
    have hread := readMagnitude_point negative isWhole_zero hall hne hr
    have hvalue : Nat.ofDigitChars 10 (['0'] ++ (List.replicate (-point).toNat '0' ++ digits)) 0 =
        Nat.ofDigitChars 10 digits 0 := by
      rw [← List.append_assoc, Nat.ofDigitChars_append, Nat.ofDigitChars_append,
        Nat.ofDigitChars_replicate_zero]
      rfl
    have hexponent : (0 : ℤ) - (List.replicate (-point).toNat '0' ++ digits).length =
        point - digits.length := by
      rw [List.length_append, List.length_replicate]
      omega
    rw [hvalue, hexponent] at hread
    simpa using hread
  · -- The point stands between the digits.
    have hwhole := (hd.take point.toNat (by omega)).isWhole
    have hall : ∀ c ∈ digits.drop point.toNat, c.isDigit = true :=
      fun c hc => hd.allDigits c (List.mem_of_mem_drop hc)
    have hne : digits.drop point.toNat ≠ [] := by
      rw [Ne, List.drop_eq_nil_iff]
      omega
    have hread := readMagnitude_point negative hwhole hall hne hr
    have hexponent : (0 : ℤ) - (digits.drop point.toNat).length = point - digits.length := by
      rw [List.length_drop]
      omega
    rw [List.take_append_drop, hexponent] at hread
    simpa using hread
  · -- Some zeros stand between the digits and the point.
    set zeros := List.replicate (point.toNat - digits.length) '0' with hz
    have hwhole : IsWhole (digits ++ zeros) := (hd.append isDigit_zeros).isWhole
    have hread := readMagnitude_point negative hwhole (@isDigit_zeros 1)
      (List.cons_ne_nil _ _) hr
    have hvalue : Nat.ofDigitChars 10 (digits ++ zeros ++ List.replicate 1 '0') 0 =
        Nat.ofDigitChars 10 digits 0 * 10 ^ (point.toNat - digits.length + 1) := by
      rw [List.append_assoc, hz, List.replicate_append_replicate, Nat.ofDigitChars_append,
        Nat.ofDigitChars_replicate_zero, Nat.mul_comm]
    have hexponent : (0 : ℤ) - (List.replicate 1 '0').length +
        (point.toNat - digits.length + 1 : ℕ) = point - digits.length := by
      rw [List.length_replicate]
      omega
    rw [hvalue, Binary64.ofDecimal_mul_pow, hexponent] at hread
    simpa using hread

lemma isDigit_natText (n : ℕ) : ∀ c ∈ natText n, c.isDigit = true :=
  fun _ hc => Nat.isDigit_of_mem_toDigits (by decide) (by decide) hc

lemma ofDigitChars_natText (n : ℕ) : Nat.ofDigitChars 10 (natText n) 0 = n :=
  Nat.ofDigitChars_ten_toDigits

lemma exponent_digits (n : ℕ) {power : List Char}
    (hp : power = if (natText n).length < 2 then '0' :: natText n else natText n) :
    (∀ c ∈ power, c.isDigit = true) ∧ power ≠ [] ∧ Nat.ofDigitChars 10 power 0 = n := by
  rw [hp]
  split_ifs
  · refine ⟨fun c hc => ?_, List.cons_ne_nil _ _, ?_⟩
    · rcases List.mem_cons.1 hc with rfl | hdigit
      · rfl
      · exact isDigit_natText n c hdigit
    · rw [Nat.ofDigitChars_cons]
      exact ofDigitChars_natText n
  · exact ⟨isDigit_natText n, Nat.toDigits_ne_nil, ofDigitChars_natText n⟩

lemma readMagnitude_scientificText (hd : IsDigits digits) (point : ℤ) (hr : EndsNumber rest) :
    readMagnitude negative (Binary64.scientificText digits point ++ rest) =
      some (.float (.ofDecimal negative (Nat.ofDigitChars 10 digits 0) (point - digits.length)),
        rest) := by
  obtain ⟨first, others, rfl⟩ := List.exists_cons_of_ne_nil hd.ne_nil
  have hfirst : IsWhole [first] := (hd.take 1 (by decide)).isWhole
  have hothers : ∀ c ∈ others, c.isDigit = true :=
    fun c hc => hd.allDigits c (List.mem_cons_of_mem _ hc)
  obtain ⟨hpower, hne, hvalue⟩ := exponent_digits (point - 1).natAbs rfl
  have hread := readMagnitude_power negative (decide (point - 1 < 0)) hfirst hothers hpower hne hr
  have hexponent : withSign (decide (point - 1 < 0)) (point - 1).natAbs - (others.length : ℤ) =
      point - ((first :: others).length : ℤ) := by
    rw [List.length_cons]
    unfold withSign
    split_ifs with hsign
    · rw [decide_eq_true_eq] at hsign
      omega
    · rw [decide_eq_true_eq] at hsign
      omega
  have hfraction : (if (first :: others).length ≤ 1 then [] else '.' :: others) =
      if others.isEmpty then [] else '.' :: others := by
    cases others <;> simp
  rw [hvalue, hexponent] at hread
  simpa [Binary64.scientificText, hfraction] using hread

lemma isDigits_natText {n : ℕ} (hn : 0 < n) : IsDigits (natText n) := by
  refine ⟨isDigit_natText n, Nat.toDigits_ne_nil, ?_⟩
  induction n using Nat.strongRecOn with
  | ind n ih =>
    rw [natText, Nat.toDigits_eq_if (by decide)]
    split_ifs with hlt
    · interval_cases n <;> decide
    · rw [List.head?_append_of_ne_nil _ Nat.toDigits_ne_nil]
      exact ih (n / 10) (by omega) (by omega)

lemma readMagnitude_magnitudeText {d : Decimal} (hd : d.coefficient ≠ 0) (hr : EndsNumber rest) :
    readMagnitude negative (Binary64.magnitudeText d ++ rest) =
      some (.float (.ofDecimal negative d.coefficient d.exponent), rest) := by
  obtain ⟨zeros, hzeros⟩ := Text.exists_dropRightWhile_zero (natText d.coefficient)
  unfold Binary64.magnitudeText
  dsimp only
  set digits := Text.dropRightWhile (· == '0') (natText d.coefficient)
  have hvalue : d.coefficient = Nat.ofDigitChars 10 digits 0 * 10 ^ zeros := by
    rw [← ofDigitChars_natText d.coefficient, hzeros, Nat.ofDigitChars_append,
      Nat.ofDigitChars_replicate_zero, Nat.mul_comm]
  have hne : digits.length ≠ 0 := by
    intro hnil
    rw [List.length_eq_zero_iff.1 hnil, Nat.ofDigitChars_nil, Nat.zero_mul] at hvalue
    exact hd hvalue
  have hdigits := (isDigits_natText (Nat.pos_of_ne_zero hd)).take digits.length hne
  rw [hzeros, List.take_left] at hdigits
  have hexponent : d.exponent + ((natText d.coefficient).length : ℤ) - digits.length =
      d.exponent + zeros := by
    rw [hzeros, List.length_append, List.length_replicate]
    omega
  conv_rhs => rw [hvalue, Binary64.ofDecimal_mul_pow, ← hexponent]
  split_ifs
  · exact readMagnitude_pointedText hdigits _ hr
  · exact readMagnitude_scientificText hdigits _ hr

lemma exists_digit_of_readMagnitude {text : List Char} {result : Json × List Char}
    (h : readMagnitude negative text = some result) :
    ∃ c tail, text = c :: tail ∧ c.isDigit = true := by
  have hwhole : readWhole text ≠ none := by
    intro hnone
    simp [readMagnitude, hnone] at h
  cases text with
  | nil => exact absurd rfl hwhole
  | cons c tail =>
    refine ⟨c, tail, rfl, ?_⟩
    by_contra hc
    have hzero : c ≠ '0' := by
      rintro rfl
      exact hc rfl
    refine hwhole ?_
    simp [readWhole, takeDigits, List.span_eq_takeWhile_dropWhile, hc, hzero]

lemma readWord_digit {c : Char} (hc : c.isDigit = true) (tail : List Char) :
    readWord (c :: tail) = none ∧ readWord ('-' :: c :: tail) = none := by
  have hne (d : Char) (hd : d.isDigit = false) : (d == c) = false := by
    rw [beq_eq_false_iff_ne]
    rintro rfl
    rw [hc] at hd
    cases hd
  constructor <;>
    simp [readWord, expect, List.isPrefixOf, hne 'n' rfl, hne 't' rfl, hne 'f' rfl, hne 'N' rfl,
      hne 'I' rfl, hne '-' rfl]

/-- A number with its sign in front is no other kind of value. -/
lemma readValue_number (fuel : ℕ) {text : List Char} {value : Json}
    (h : readMagnitude negative text = some (value, rest)) :
    readValue (fuel + 1) (skipSpace (if negative then '-' :: text else text)) =
      some (value, rest) := by
  obtain ⟨c, tail, rfl, hc⟩ := exists_digit_of_readMagnitude h
  have hne (d : Char) (hd : d.isDigit = false) : c ≠ d := by
    rintro rfl
    rw [hc] at hd
    cases hd
  obtain ⟨hword, hminus⟩ := readWord_digit hc tail
  cases negative with
  | true =>
    have hspace : skipSpace ('-' :: c :: tail) = '-' :: c :: tail := by simp [skipSpace]
    simp [hspace, readValue, hminus, readNumber, h]
  | false =>
    have hspace : skipSpace (c :: tail) = c :: tail := by
      simp [skipSpace, hne ' ' rfl, hne '\n' rfl, hne '\t' rfl, hne '\r' rfl]
    simp [hspace, readValue, hword, readNumber, h, hne '"' rfl, hne '[' rfl, hne '{' rfl,
      hne '-' rfl]

lemma readValue_intText (n : ℤ) (fuel : ℕ) (hr : EndsNumber rest) :
    readValue (fuel + 1) (skipSpace (intText n ++ rest)) = some (.int n, rest) := by
  have hread (negative : Bool) (n : ℕ) : readMagnitude negative (natText n ++ rest) =
      some (.int (withSign negative n), rest) := by
    by_cases hn : n = 0
    · subst hn
      exact readMagnitude_whole isWhole_zero hr
    · rw [readMagnitude_whole (isDigits_natText (Nat.pos_of_ne_zero hn)).isWhole hr,
        ofDigitChars_natText]
  cases n with
  | ofNat n => exact readValue_number fuel (hread false n)
  | negSucc n => exact readValue_number fuel (hread true (n + 1))

lemma eq_zero_of_mantissa {x : Binary64} (hm : x.mantissa = 0) : x = .zero x.negative := by
  obtain ⟨negative, exponent, fraction⟩ := x
  have hexponent : exponent = 0 := by
    by_contra hne
    have hval : exponent.val ≠ 0 := fun hval => hne (Fin.ext hval)
    simp [Binary64.mantissa, hval, fractionSize] at hm
  subst hexponent
  have hfraction : fraction = 0 := Fin.ext (by simpa [Binary64.mantissa] using hm)
  rw [hfraction]
  rfl

lemma eq_infinity_of_not_finite {x : Binary64} (hx : x.isFinite = false) (hn : x.isNaN = false) :
    x = .infinity x.negative := by
  obtain ⟨negative, exponent, fraction⟩ := x
  have hexponent : exponent = 2047 := Fin.ext (by simpa [Binary64.isFinite] using hx)
  have hfraction : fraction = 0 := Fin.ext (by simpa [Binary64.isNaN, hx] using hn)
  rw [hexponent, hfraction]
  rfl

lemma readMagnitude_finite {x : Binary64} (hx : x.isFinite = true) (hr : EndsNumber rest) :
    readMagnitude x.negative ((if x.mantissa = 0 then ['0', '.', '0'] else
      Binary64.magnitudeText x.shortest) ++ rest) = some (.float x, rest) := by
  split_ifs with hm
  · conv_rhs => rw [eq_zero_of_mantissa hm]
    exact readMagnitude_point x.negative isWhole_zero (@isDigit_zeros 1) (List.cons_ne_nil _ _) hr
  · rw [readMagnitude_magnitudeText (Binary64.shortest_coefficient_ne_zero hx hm) hr,
      Binary64.ofDecimal_shortest hx hm]

/-- The text of a number is read as the number, of which one is no number. -/
lemma readValue_floatText {x : Binary64} (hx : x.isNaN = true → x = .nan) (fuel : ℕ)
    (hr : EndsNumber rest) :
    readValue (fuel + 1) (skipSpace (floatText x ++ rest)) = some (.float x, rest) := by
  unfold floatText Binary64.text
  dsimp only
  cases hnan : x.isNaN with
  | true =>
    rw [if_pos rfl, hx hnan]
    have hlength : "NaN".length = 3 := rfl
    simp [skipSpace, readValue, readWord, expect, List.isPrefixOf, hlength]
  | false =>
    cases hfinite : x.isFinite with
    | true =>
      have hread := readValue_number fuel (readMagnitude_finite hfinite hr)
      cases hsign : x.negative <;> simpa [hsign] using hread
    | false =>
      rw [eq_infinity_of_not_finite hfinite hnan]
      cases x.negative with
      | true =>
        have hlength : "-Infinity".length = 9 := rfl
        simp [Binary64.infinity, skipSpace, readValue, readWord, expect, List.isPrefixOf, hlength]
      | false =>
        have hlength : "Infinity".length = 8 := rfl
        simp [Binary64.infinity, skipSpace, readValue, readWord, expect, List.isPrefixOf, hlength]

section Ascii

lemma ascii_of_isDigit {c : Char} (hc : c.isDigit = true) : c.toNat < 0x80 := by
  have hle : c.toNat ≤ 57 := by
    rw [Char.isDigit, Bool.and_eq_true, decide_eq_true_eq, decide_eq_true_eq] at hc
    exact hc.2
  omega

lemma intText_ascii (n : ℤ) : ∀ c ∈ intText n, c.toNat < 0x80 := by
  have hnat (n : ℕ) : ∀ c ∈ natText n, c.toNat < 0x80 :=
    fun c hc => ascii_of_isDigit (isDigit_natText n c hc)
  cases n with
  | ofNat n => exact hnat n
  | negSucc n => exact List.forall_mem_cons.2 ⟨by decide, hnat (n + 1)⟩

lemma pointedText_ascii (hd : ∀ c ∈ digits, c.toNat < 0x80) (point : ℤ) :
    ∀ c ∈ Binary64.pointedText digits point, c.toNat < 0x80 := by
  have hzeros (count : ℕ) : ∀ c ∈ List.replicate count '0', c.toNat < 0x80 :=
    fun c hc => ascii_of_isDigit (isDigit_zeros c hc)
  unfold Binary64.pointedText
  split_ifs
  · simp only [List.cons_append, List.forall_mem_cons, List.forall_mem_append]
    exact ⟨by decide, by decide, hzeros _, hd⟩
  · simp only [List.forall_mem_append, List.forall_mem_cons]
    exact ⟨fun c hc => hd c (List.mem_of_mem_take hc), by decide,
      fun c hc => hd c (List.mem_of_mem_drop hc)⟩
  · simp only [List.forall_mem_append]
    exact ⟨⟨hd, hzeros _⟩, by simp⟩

lemma scientificText_ascii (hd : ∀ c ∈ digits, c.toNat < 0x80) (point : ℤ) :
    ∀ c ∈ Binary64.scientificText digits point, c.toNat < 0x80 := by
  have hfraction : ∀ c ∈ if digits.length ≤ 1 then [] else '.' :: digits.drop 1,
      c.toNat < 0x80 := by
    split_ifs
    · simp
    · exact List.forall_mem_cons.2 ⟨by decide, fun c hc => hd c (List.mem_of_mem_drop hc)⟩
  have hsign : (if point - 1 < 0 then '-' else '+').toNat < 0x80 := by
    split_ifs <;> decide
  have hpower := (exponent_digits (point - 1).natAbs rfl).1
  unfold Binary64.scientificText
  simp only [List.append_assoc, List.forall_mem_append, List.forall_mem_cons]
  exact ⟨fun c hc => hd c (List.mem_of_mem_take hc), hfraction, by decide, hsign,
    fun c hc => ascii_of_isDigit (hpower c hc)⟩

lemma magnitudeText_ascii (d : Decimal) : ∀ c ∈ Binary64.magnitudeText d, c.toNat < 0x80 := by
  obtain ⟨zeros, hzeros⟩ := Text.exists_dropRightWhile_zero (natText d.coefficient)
  have hdigits : ∀ c ∈ Text.dropRightWhile (· == '0') (natText d.coefficient),
      c.toNat < 0x80 := by
    intro c hc
    refine ascii_of_isDigit (isDigit_natText d.coefficient c ?_)
    rw [hzeros]
    exact List.mem_append_left _ hc
  unfold Binary64.magnitudeText
  dsimp only
  split_ifs
  · exact pointedText_ascii hdigits _
  · exact scientificText_ascii hdigits _

lemma floatText_ascii (x : Binary64) : ∀ c ∈ floatText x, c.toNat < 0x80 := by
  have hmagnitude : ∀ c ∈ if !x.isFinite then "Infinity".toList
      else if x.mantissa = 0 then ['0', '.', '0'] else Binary64.magnitudeText x.shortest,
      c.toNat < 0x80 := by
    split_ifs
    · simp
    · simp
    · exact magnitudeText_ascii x.shortest
  unfold floatText Binary64.text
  dsimp only
  split
  · simp
  · split
    · exact List.forall_mem_cons.2 ⟨by decide, hmagnitude⟩
    · exact hmagnitude

end Ascii

end Json

end MockIssuer
