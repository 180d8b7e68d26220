import MockIssuer.Number.Shortest
import MockIssuer.Proofs.Rounding

/-!
# The shortest decimal reads back

A decimal number keeps its value when zeros are moved between its coefficient and its exponent, so
it is read as the same double-precision number (`ofDecimal_mul_pow`). The exact expansion of a
finite number reads back as the number, and so does every decimal that the search for the shortest
one can stop at (`ofDecimal_shortest`).
-/
namespace MockIssuer.Number

lemma length_natText_le_iff {n size : ℕ} (hs : 0 < size) :
    (natText n).length ≤ size ↔ n < 10 ^ size :=
  Nat.length_toDigits_le_iff (by decide) hs

lemma length_natText_pos (n : ℕ) : 0 < (natText n).length := Nat.length_toDigits_pos

/-- A positive number reaches the power of ten below its number of digits. -/
lemma pow_le_of_length_natText {n : ℕ} (hn : 0 < n) : 10 ^ ((natText n).length - 1) ≤ n := by
  by_cases hsize : (natText n).length - 1 = 0
  · rw [hsize, pow_zero]
    exact hn
  · by_contra hlt
    have hle := (length_natText_le_iff (Nat.pos_of_ne_zero hsize)).2 (not_le.1 hlt)
    omega

lemma lt_pow_length_natText (n : ℕ) : n < 10 ^ (natText n).length :=
  (length_natText_le_iff (length_natText_pos n)).1 le_rfl

lemma length_natText_mul_pow {n : ℕ} (hn : 0 < n) (zeros : ℕ) :
    (natText (n * 10 ^ zeros)).length = (natText n).length + zeros := by
  have hpos := length_natText_pos n
  have hpow : 0 < 10 ^ zeros := Nat.pow_pos (by decide)
  refine le_antisymm ?_ ?_
  · rw [length_natText_le_iff (by omega), pow_add]
    exact Nat.mul_lt_mul_of_pos_right (lt_pow_length_natText n) hpow
  · by_contra hlt
    have hshort : (natText (n * 10 ^ zeros)).length ≤ (natText n).length - 1 + zeros := by omega
    have hlong : 10 ^ ((natText n).length - 1 + zeros) ≤ n * 10 ^ zeros := by
      rw [pow_add]
      exact Nat.mul_le_mul_right _ (pow_le_of_length_natText hn)
    have hlast := lt_pow_length_natText (n * 10 ^ zeros)
    have hle := Nat.pow_le_pow_right (show 0 < 10 by decide) hshort
    omega

namespace Binary64

/-- Zeros at the end of a coefficient count like an exponent. -/
theorem ofDecimal_mul_pow (negative : Bool) (coefficient zeros : ℕ) (exponent : ℤ) :
    ofDecimal negative (coefficient * 10 ^ zeros) exponent =
      ofDecimal negative coefficient (exponent + zeros) := by
  have hpow (n : ℕ) : 0 < Nat.pow 10 n := Nat.pow_pos (by decide)
  by_cases hzero : coefficient = 0
  · rw [hzero, Nat.zero_mul, ofDecimal, ofDecimal, if_pos rfl, if_pos rfl]
  · have hpos : 0 < coefficient := Nat.pos_of_ne_zero hzero
    have hne : coefficient * 10 ^ zeros ≠ 0 := (Nat.mul_pos hpos (hpow zeros)).ne'
    have htop : exponent + ((Nat.toDigits 10 (coefficient * 10 ^ zeros)).length : ℤ) =
        exponent + zeros + (Nat.toDigits 10 coefficient).length := by
      have hlength := length_natText_mul_pow hpos zeros
      unfold natText at hlength
      omega
    rw [ofDecimal, ofDecimal, if_neg hzero, if_neg hne, htop]
    dsimp only
    congr 2
    refine ofRatio_congr negative (hpow _) (hpow _) ?_
    have hsum : zeros + exponent.toNat + (-(exponent + zeros)).toNat =
        (exponent + zeros).toNat + (-exponent).toNat := by omega
    simp only [Nat.pow_eq]
    rw [Nat.mul_assoc, Nat.mul_assoc, Nat.mul_assoc, ← pow_add, ← pow_add, ← pow_add, ← hsum,
      Nat.add_assoc]

variable {x : Binary64}

lemma ofDecimal_eq_ofRatio (negative : Bool) {coefficient : ℕ} {exponent : ℤ}
    (hc : coefficient ≠ 0) (hmost : exponent + (natText coefficient).length ≤ 310)
    (hleast : -330 ≤ exponent + (natText coefficient).length) :
    ofDecimal negative coefficient exponent =
      ofRatio negative (coefficient * 10 ^ exponent.toNat) (10 ^ (-exponent).toNat) := by
  unfold natText at hmost hleast
  rw [ofDecimal, if_neg hc]
  dsimp only
  rw [if_neg (by omega), if_neg (by omega)]
  rfl

lemma mantissa_lt (x : Binary64) : x.mantissa < 2 ^ 53 := by
  have hfrac := x.fraction.isLt
  unfold mantissa fractionSize at *
  split_ifs <;> omega

lemma scale_bounds (hx : x.isFinite = true) : -1074 ≤ x.scale ∧ x.scale ≤ 971 := by
  have hne : x.exponent.val ≠ 2047 := by simpa [isFinite] using hx
  have hlt := x.exponent.isLt
  unfold scale
  omega

lemma length_exact_le (hx : x.isFinite = true) :
    x.exact.exponent + (natText x.exact.coefficient).length ≤ 310 := by
  have hscale := scale_bounds hx
  have hmantissa := mantissa_lt x
  unfold exact
  split_ifs with hs
  · have hlength : (natText (x.mantissa * 2 ^ x.scale.toNat)).length ≤ 309 := by
      rw [length_natText_le_iff (by decide)]
      calc x.mantissa * 2 ^ x.scale.toNat
          < 2 ^ 53 * 2 ^ x.scale.toNat :=
            Nat.mul_lt_mul_of_pos_right hmantissa (Nat.pow_pos two_pos)
        _ ≤ 2 ^ 53 * 2 ^ 971 :=
            Nat.mul_le_mul_left _ (Nat.pow_le_pow_right two_pos (by omega))
        _ ≤ 10 ^ 309 := by decide +kernel
    simp only [Nat.pow_eq]
    omega
  · have hlength : (natText (x.mantissa * 5 ^ (-x.scale).toNat)).length ≤
        16 + (-x.scale).toNat := by
      rw [length_natText_le_iff (by omega), pow_add]
      calc x.mantissa * 5 ^ (-x.scale).toNat
          < 2 ^ 53 * 5 ^ (-x.scale).toNat :=
            Nat.mul_lt_mul_of_pos_right hmantissa (Nat.pow_pos (by decide))
        _ ≤ 10 ^ 16 * 10 ^ (-x.scale).toNat :=
            Nat.mul_le_mul (by norm_num) (Nat.pow_le_pow_left (by decide) _)
    simp only [Nat.pow_eq]
    omega

/-- The first digit of a finite number is not far behind the point. -/
lemma le_length_exact (hx : x.isFinite = true) (hm : x.mantissa ≠ 0) :
    -330 ≤ x.exact.exponent + (natText x.exact.coefficient).length := by
  have hscale := scale_bounds hx
  unfold exact
  split_ifs with hs
  · dsimp only
    omega
  · simp only [Nat.pow_eq]
    set places := (-x.scale).toNat
    by_contra hlt
    have hfew : (natText (x.mantissa * 5 ^ places)).length ≤ places - 331 := by omega
    have hpos := length_natText_pos (x.mantissa * 5 ^ places)
    rw [length_natText_le_iff (by omega)] at hfew
    have hone : 5 ^ places ≤ x.mantissa * 5 ^ places :=
      Nat.le_mul_of_pos_left _ (Nat.pos_of_ne_zero hm)
    -- Then a power of ten would lie below one of two.
    have hpow : 10 ^ (places - 331) * 10 ^ 331 < 10 ^ (places - 331) * 2 ^ places :=
      calc 10 ^ (places - 331) * 10 ^ 331 = 10 ^ places := by
            rw [← pow_add]
            congr 1
            omega
        _ = 5 ^ places * 2 ^ places := by rw [← Nat.mul_pow]
        _ < 10 ^ (places - 331) * 2 ^ places :=
            Nat.mul_lt_mul_of_pos_right (hone.trans_lt hfew) (Nat.pow_pos two_pos)
    have hlarge : 2 ^ places ≤ 10 ^ 331 :=
      (Nat.pow_le_pow_right two_pos (show places ≤ 1074 by omega)).trans (by decide +kernel)
    exact absurd (Nat.lt_of_mul_lt_mul_left hpow) (not_lt.2 hlarge)

lemma isReadFrom_exact (hx : x.isFinite = true) (hm : x.mantissa ≠ 0) :
    x.isReadFrom x.exact = true := by
  have hpos : 0 < x.mantissa := Nat.pos_of_ne_zero hm
  have hten (n : ℕ) : 0 < 10 ^ n := Nat.pow_pos (by decide)
  have hne : x.exact.coefficient ≠ 0 := by
    unfold exact
    split_ifs
    · exact (Nat.mul_pos hpos (Nat.pow_pos two_pos)).ne'
    · exact (Nat.mul_pos hpos (Nat.pow_pos (by decide))).ne'
  rw [isReadFrom, beq_iff_eq, ofDecimal_eq_ofRatio _ hne (length_exact_le hx)
    (le_length_exact hx hm)]
  conv_rhs => rw [← ofRatio_ratio hx hm]
  refine ofRatio_congr x.negative (hten _) (ratio_den_pos x) ?_
  unfold exact ratio
  split_ifs with hs
  · have hzero : (-x.scale).toNat = 0 := by omega
    simp [hzero]
  · have hzero : x.scale.toNat = 0 := by omega
    simp only [hzero, Nat.pow_eq, pow_zero, Nat.mul_one]
    rw [Nat.mul_assoc, ← Nat.mul_pow]

/-- A decimal of the grid is taken only where it reads back. -/
lemma isReadFrom_of_onGrid? {exponent : ℤ} {d : Decimal} (h : x.onGrid? exponent = some d) :
    x.isReadFrom d = true := by
  unfold onGrid? at h
  dsimp only at h
  split at h
  · next hbelow habove =>
    obtain rfl := Option.some.inj h
    unfold roundHalfEven
    dsimp only
    split_ifs
    · exact habove
    · exact hbelow
  · next hbelow _ =>
    obtain rfl := Option.some.inj h
    exact hbelow
  · next _ habove =>
    obtain rfl := Option.some.inj h
    exact habove
  · cases h

/-- The shortest decimal of a finite number other than zero reads back as the number. -/
theorem ofDecimal_shortest (hx : x.isFinite = true) (hm : x.mantissa ≠ 0) :
    ofDecimal x.negative x.shortest.coefficient x.shortest.exponent = x := by
  have hread : x.isReadFrom x.shortest = true := by
    unfold shortest
    dsimp only
    cases hfound : (List.range 17).findSome? fun (n : ℕ) =>
        x.onGrid? (floorLog10 x.ratio.1 x.ratio.2 - n) with
    | none => exact isReadFrom_exact hx hm
    | some d =>
      obtain ⟨n, -, hn⟩ := List.exists_of_findSome?_eq_some hfound
      exact isReadFrom_of_onGrid? hn
  simpa [isReadFrom] using hread

lemma shortest_coefficient_ne_zero (hx : x.isFinite = true) (hm : x.mantissa ≠ 0) :
    x.shortest.coefficient ≠ 0 := by
  intro hzero
  have hread := ofDecimal_shortest hx hm
  rw [hzero, ofDecimal, if_pos rfl] at hread
  rw [← hread] at hm
  exact hm rfl

end Binary64

end MockIssuer.Number
