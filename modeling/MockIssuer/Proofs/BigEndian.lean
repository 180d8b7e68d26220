import Mathlib
import MockIssuer.Encoding.Bytes

/-!
# Reading big-endian numbers

Reading the bytes of a number gives it back as far as the width holds it (`toNat_ofNat`), and
writing the number that some bytes stand for in their own width gives them back (`ofNat_toNat`).
-/
namespace MockIssuer.Bytes

@[simp] theorem toNat_ofNat (width n : Nat) : toNat (ofNat width n) = n % 256 ^ width := by
  induction width generalizing n with
  | zero => simp [ofNat, toNat, Nat.mod_one]
  | succ width ih =>
    have low : ((n % 256).toUInt8).toNat = n % 256 := by
      simp [Nat.toUInt8, UInt8.toNat_ofNat']
    rw [ofNat, toNat_append_singleton, ih, low, Nat.pow_succ, Nat.mul_comm (256 ^ width) 256,
      Nat.mod_mul]
    omega

lemma toNat_lt (bytes : Bytes) : toNat bytes < 256 ^ bytes.length := by
  induction bytes using List.reverseRecOn with
  | nil => simp [toNat]
  | append_singleton bytes b ih =>
    have hb := b.toNat_lt
    rw [toNat_append_singleton, List.length_append, List.length_singleton, pow_succ]
    omega

/-- Writing the number of some bytes in their own width gives them back. -/
@[simp] theorem ofNat_toNat (bytes : Bytes) : ofNat bytes.length (toNat bytes) = bytes := by
  induction bytes using List.reverseRecOn with
  | nil => rfl
  | append_singleton bytes b ih =>
    have hb := b.toNat_lt
    have hq : (256 * toNat bytes + b.toNat) / 256 = toNat bytes := by omega
    have hr : (256 * toNat bytes + b.toNat) % 256 = b.toNat := by omega
    rw [toNat_append_singleton, List.length_append, List.length_singleton, ofNat, hq, hr, ih]
    simp

@[simp] lemma toNat_zero_cons (bytes : Bytes) : toNat (0 :: bytes) = toNat bytes := by
  simp [toNat]

end MockIssuer.Bytes
