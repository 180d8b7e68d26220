import Mathlib
import MockIssuer.Rsa.Arithmetic

/-!
# Modular powers

Repeated squaring computes the remainder of a power (`powMod_eq`).
-/
namespace MockIssuer.Rsa

theorem powMod_eq (b e m : Nat) : powMod b e m = b ^ e % m := by
  induction e using Nat.strongRecOn generalizing b with
  | ind e ih =>
    rw [powMod]
    by_cases h : e = 0
    · simp [h]
    · have split : b ^ e = (b * b) ^ (e / 2) * b ^ (e % 2) := by
        rw [← Nat.pow_two, ← Nat.pow_mul, ← Nat.pow_add, Nat.div_add_mod]
      have step := ih (e / 2) (by omega) (b * b % m)
      rw [← Nat.pow_mod] at step
      simp only [h, dif_neg, not_false_eq_true, step]
      by_cases even : e % 2 = 0
      · simp [even, split]
      · have odd : e % 2 = 1 := by omega
        rw [if_neg even, split, odd, Nat.pow_one, Nat.mod_mul_mod]

end MockIssuer.Rsa
