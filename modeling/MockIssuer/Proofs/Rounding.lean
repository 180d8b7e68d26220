import Mathlib
import MockIssuer.Number.Binary64

/-!
# Rounding to double precision

Rounding a quotient depends on its value only, not on the two numbers that it is written with
(`ofRatio_congr`): the exponent is a logarithm of the value, and a quotient that is expanded is
rounded to the same integer. A number whose value needs no rounding is returned as it is
(`ofRatio_ratio`).
-/
namespace MockIssuer.Number

lemma roundHalfEven_mul_right (num den : ℕ) {factor : ℕ} (hf : 0 < factor) :
    roundHalfEven (num * factor) (den * factor) = roundHalfEven num den := by
  have hdiv : num * factor / (den * factor) = num / den := Nat.mul_div_mul_right num den hf
  have hmod : num * factor % (den * factor) = num % den * factor := Nat.mul_mod_mul_right ..
  have htwice : 2 * (num % den * factor) = 2 * (num % den) * factor := by ring
  have hlt : den * factor < 2 * (num % den) * factor ↔ den < 2 * (num % den) :=
    Nat.mul_lt_mul_right hf
  have heq : 2 * (num % den) * factor = den * factor ↔ 2 * (num % den) = den :=
    Nat.mul_left_inj hf.ne'
  simp only [roundHalfEven, hdiv, hmod, htwice, hlt, heq]

lemma roundHalfEven_mul_self (n : ℕ) {den : ℕ} (hd : 0 < den) :
    roundHalfEven (n * den) den = n := by
  have hdiv : n * den / den = n := Nat.mul_div_cancel n hd
  simp only [roundHalfEven, hdiv, Nat.mul_mod_left]
  rw [if_neg (by omega)]

lemma roundHalfEven_congr {num den num' den' : ℕ} (hd : 0 < den) (hd' : 0 < den')
    (h : num * den' = num' * den) : roundHalfEven num den = roundHalfEven num' den' := by
  rw [← roundHalfEven_mul_right num den hd', ← roundHalfEven_mul_right num' den' hd, h,
    Nat.mul_comm den]

/-- A power below one is written as a quotient. -/
lemma zpow_mul_pow_toNat (k : ℤ) : (2 : ℚ) ^ k * 2 ^ (-k).toNat = 2 ^ k.toNat := by
  rw [← zpow_natCast, ← zpow_natCast, ← zpow_add₀ two_ne_zero]
  congr 1
  omega

lemma mul_pow_le_iff {num den : ℕ} (hd : 0 < den) (k : ℤ) :
    den * 2 ^ k.toNat ≤ num * 2 ^ (-k).toNat ↔ (2 : ℚ) ^ k ≤ (num : ℚ) / den := by
  have hden : (0 : ℚ) < den := by exact_mod_cast hd
  have hneg : (0 : ℚ) < 2 ^ (-k).toNat := by positivity
  rw [le_div_iff₀ hden, ← mul_le_mul_iff_left₀ hneg, mul_right_comm, zpow_mul_pow_toNat,
    mul_comm]
  exact_mod_cast Iff.rfl

/-- The greatest power of two in a quotient is given by its logarithm. -/
theorem floorLog2_eq_log {num den : ℕ} (hn : 0 < num) (hd : 0 < den) :
    floorLog2 num den = Int.log 2 ((num : ℚ) / den) := by
  have hnum : (0 : ℚ) < num := by exact_mod_cast hn
  have hden : (0 : ℚ) < den := by exact_mod_cast hd
  have hpos : (0 : ℚ) < num / den := div_pos hnum hden
  have hsplit (a b : ℕ) : (2 : ℚ) ^ ((a : ℤ) - b) * 2 ^ b = 2 ^ a := by
    rw [← zpow_natCast, ← zpow_natCast, ← zpow_add₀ two_ne_zero]
    congr 1
    omega
  have hlow : (2 : ℚ) ^ num.log2 ≤ num := by exact_mod_cast Nat.log2_self_le hn.ne'
  have hhigh : (num : ℚ) < 2 ^ (num.log2 + 1) := by exact_mod_cast Nat.lt_log2_self
  have hlow' : (2 : ℚ) ^ den.log2 ≤ den := by exact_mod_cast Nat.log2_self_le hd.ne'
  have hhigh' : (den : ℚ) < 2 ^ (den.log2 + 1) := by exact_mod_cast Nat.lt_log2_self
  -- The difference of the two logarithms is the logarithm of the quotient or one above it.
  have hbelow : (2 : ℚ) ^ ((num.log2 : ℤ) - (den.log2 + 1 : ℕ)) ≤ num / den := by
    rw [le_div_iff₀ hden]
    calc (2 : ℚ) ^ ((num.log2 : ℤ) - (den.log2 + 1 : ℕ)) * den
        ≤ (2 : ℚ) ^ ((num.log2 : ℤ) - (den.log2 + 1 : ℕ)) * 2 ^ (den.log2 + 1) := by gcongr
      _ = 2 ^ num.log2 := hsplit _ _
      _ ≤ num := hlow
  have habove : (num : ℚ) / den < 2 ^ (((num.log2 + 1 : ℕ) : ℤ) - den.log2) := by
    rw [div_lt_iff₀ hden]
    calc (num : ℚ) < 2 ^ (num.log2 + 1) := hhigh
      _ = 2 ^ (((num.log2 + 1 : ℕ) : ℤ) - den.log2) * 2 ^ den.log2 := (hsplit _ _).symm
      _ ≤ 2 ^ (((num.log2 + 1 : ℕ) : ℤ) - den.log2) * den := by gcongr
  have hle (k : ℤ) (h : (2 : ℚ) ^ k ≤ num / den) : k ≤ Int.log 2 ((num : ℚ) / den) :=
    (Int.zpow_le_iff_le_log one_lt_two hpos).1 h
  have hlt (k : ℤ) (h : (num : ℚ) / den < 2 ^ k) : Int.log 2 ((num : ℚ) / den) < k :=
    (Int.lt_zpow_iff_log_lt one_lt_two hpos).1 h
  have hleast := hle _ hbelow
  have hmost := hlt _ habove
  unfold floorLog2
  simp only [Nat.pow_eq, mul_pow_le_iff hd]
  split_ifs with h
  · have hk := hle _ h
    omega
  · have hk := hlt _ (not_le.1 h)
    omega

namespace Binary64

/-- Rounding depends on the value of a quotient only. -/
theorem ofRatio_congr (negative : Bool) {num den num' den' : ℕ} (hd : 0 < den) (hd' : 0 < den')
    (h : num * den' = num' * den) : ofRatio negative num den = ofRatio negative num' den' := by
  by_cases hn : num = 0
  · have hn' : num' = 0 := by
      rw [hn, Nat.zero_mul] at h
      exact (Nat.mul_eq_zero.1 h.symm).resolve_right hd.ne'
    rw [ofRatio, ofRatio, if_pos hn, if_pos hn']
  · have hn' : num' ≠ 0 := by
      rintro rfl
      rw [Nat.zero_mul] at h
      exact hn ((Nat.mul_eq_zero.1 h).resolve_right hd'.ne')
    have hvalue : (num : ℚ) / den = num' / den' := by
      rw [div_eq_div_iff (by exact_mod_cast hd.ne') (by exact_mod_cast hd'.ne')]
      exact_mod_cast h
    have hlog : floorLog2 num den = floorLog2 num' den' := by
      rw [floorLog2_eq_log (Nat.pos_of_ne_zero hn) hd,
        floorLog2_eq_log (Nat.pos_of_ne_zero hn') hd', hvalue]
    rw [ofRatio, ofRatio, if_neg hn, if_neg hn', hlog]
    dsimp only
    congr 2
    refine roundHalfEven_congr ?_ ?_ ?_
    · exact Nat.mul_pos hd (Nat.pow_pos two_pos)
    · exact Nat.mul_pos hd' (Nat.pow_pos two_pos)
    · rw [Nat.mul_mul_mul_comm, h, Nat.mul_mul_mul_comm]

lemma ofMagnitude_fields (negative : Bool) {exponent : Fin 2048} (he : exponent.val < 2047)
    (fraction : Fin fractionSize) :
    ofMagnitude negative (exponent.val * fractionSize + fraction.val) =
      ⟨negative, exponent, fraction⟩ := by
  have hdiv : (exponent.val * fractionSize + fraction.val) / fractionSize = exponent.val := by
    rw [Nat.add_comm, Nat.add_mul_div_right _ _ (by decide), Nat.div_eq_of_lt fraction.isLt,
      Nat.zero_add]
  have hmod : (exponent.val * fractionSize + fraction.val) % fractionSize = fraction.val := by
    rw [Nat.add_comm, Nat.add_mul_mod_self_right, Nat.mod_eq_of_lt fraction.isLt]
  rw [ofMagnitude, dif_pos (by rw [hdiv]; exact he)]
  congr 1
  · exact Fin.ext hdiv
  · exact Fin.ext hmod

lemma ofMagnitude_mantissa {x : Binary64} (hx : x.isFinite = true) :
    ofMagnitude x.negative ((x.scale + 1074).toNat * fractionSize + x.mantissa) = x := by
  have hexp : x.exponent.val < 2047 := by
    have hne : x.exponent.val ≠ 2047 := by simpa [isFinite] using hx
    have hlt := x.exponent.isLt
    omega
  have hbits : (x.scale + 1074).toNat * fractionSize + x.mantissa =
      x.exponent.val * fractionSize + x.fraction.val := by
    by_cases hzero : x.exponent.val = 0
    · simp [scale, mantissa, hzero]
    · have hscale : (x.scale + 1074).toNat = x.exponent.val - 1 := by
        unfold scale
        omega
      have hpred : x.exponent.val = x.exponent.val - 1 + 1 := by omega
      rw [hscale, mantissa, if_neg hzero]
      conv_rhs => rw [hpred]
      ring
  rw [hbits, ofMagnitude_fields x.negative hexp x.fraction]

lemma ratio_den_pos (x : Binary64) : 0 < x.ratio.2 := Nat.pow_pos two_pos

lemma ratio_value (x : Binary64) : (x.ratio.1 : ℚ) / x.ratio.2 = x.mantissa * 2 ^ x.scale := by
  simp only [ratio, Nat.pow_eq, Nat.cast_mul, Nat.cast_pow, Nat.cast_ofNat]
  rw [← zpow_mul_pow_toNat]
  field_simp

/-- The scale of a number is what rounding takes for its value. -/
lemma scale_eq_max {x : Binary64} (hm : x.mantissa ≠ 0) :
    max (-1074) (floorLog2 x.ratio.1 x.ratio.2 - 52) = x.scale := by
  have hpos : 0 < x.mantissa := Nat.pos_of_ne_zero hm
  have hmantissa : (0 : ℚ) < x.mantissa := by exact_mod_cast hpos
  have hnum : 0 < x.ratio.1 := Nat.mul_pos hpos (Nat.pow_pos two_pos)
  have hlog := floorLog2_eq_log hnum (ratio_den_pos x)
  rw [ratio_value] at hlog
  have hplace : (0 : ℚ) < 2 ^ x.scale := by positivity
  have hrange : (0 : ℚ) < x.mantissa * 2 ^ x.scale := mul_pos hmantissa hplace
  have hup (size : ℕ) (h : x.mantissa < 2 ^ size) :
      Int.log 2 ((x.mantissa : ℚ) * 2 ^ x.scale) < size + x.scale := by
    refine (Int.lt_zpow_iff_log_lt one_lt_two hrange).1 ?_
    rw [Nat.cast_ofNat, zpow_add₀ two_ne_zero, zpow_natCast]
    have hlt : (x.mantissa : ℚ) < 2 ^ size := by exact_mod_cast h
    gcongr
  by_cases hzero : x.exponent.val = 0
  · have hlt := hup 52 (by rw [mantissa, if_pos hzero]; exact x.fraction.isLt)
    have hscale : x.scale = -1074 := by
      unfold scale
      omega
    omega
  · have hfrac := x.fraction.isLt
    have hlt := hup 53 (by rw [mantissa, if_neg hzero]; unfold fractionSize at *; omega)
    have hge : 52 + x.scale ≤ Int.log 2 ((x.mantissa : ℚ) * 2 ^ x.scale) := by
      refine (Int.zpow_le_iff_le_log one_lt_two hrange).1 ?_
      rw [Nat.cast_ofNat, zpow_add₀ two_ne_zero]
      have hle : 2 ^ 52 ≤ x.mantissa := by
        rw [mantissa, if_neg hzero]
        unfold fractionSize
        omega
      have hle' : (2 : ℚ) ^ (52 : ℤ) ≤ x.mantissa := by exact_mod_cast hle
      gcongr
    have hscale : -1074 ≤ x.scale := by
      unfold scale
      omega
    omega

/-- A finite number other than zero is what its value is rounded to. -/
theorem ofRatio_ratio {x : Binary64} (hx : x.isFinite = true) (hm : x.mantissa ≠ 0) :
    ofRatio x.negative x.ratio.1 x.ratio.2 = x := by
  have hpow (n : ℕ) : 0 < Nat.pow 2 n := Nat.pow_pos two_pos
  have hnum : x.ratio.1 ≠ 0 := (Nat.mul_pos (Nat.pos_of_ne_zero hm) (hpow _)).ne'
  have hround : roundHalfEven (x.ratio.1 * Nat.pow 2 (-x.scale).toNat)
      (x.ratio.2 * Nat.pow 2 x.scale.toNat) = x.mantissa := by
    have hexpand : x.ratio.1 * Nat.pow 2 (-x.scale).toNat =
        x.mantissa * (x.ratio.2 * Nat.pow 2 x.scale.toNat) := by
      simp only [ratio]
      ring
    rw [hexpand]
    exact roundHalfEven_mul_self _ (Nat.mul_pos (ratio_den_pos x) (hpow _))
  rw [ofRatio, if_neg hnum, scale_eq_max hm]
  dsimp only
  rw [hround]
  exact ofMagnitude_mantissa hx

end Binary64

end MockIssuer.Number
