import Mathlib
import MockIssuer.Proofs.BigEndian
import MockIssuer.Proofs.ModularPower
import MockIssuer.Rsa.Signature

/-!
# Signatures and their verification

A valid key has two different primes and exponents that are inverse to each other modulo the order
of the group. Raising to both exponents then changes no number below the modulus, for numbers with
a prime factor in common with the modulus too, so every signature made with such a key is accepted
under its public half (`verify_of_sign?`).
-/
namespace MockIssuer.Rsa

/-- A power with an exponent that a prime does not tell from one. -/
lemma pow_modEq_self {p n : ℕ} (hp : p.Prime) (hpos : n ≠ 0) (hn : n ≡ 1 [MOD p - 1]) (m : ℕ) :
    m ^ n ≡ m [MOD p] := by
  by_cases hm : p ∣ m
  · have hz : m ≡ 0 [MOD p] := (Nat.modEq_zero_iff_dvd).mpr hm
    exact ((Nat.modEq_zero_iff_dvd).mpr (hm.trans (dvd_pow_self m hpos))).trans hz.symm
  · have hc : Nat.Coprime m p := (hp.coprime_iff_not_dvd.mpr hm).symm
    have hone : 1 ≤ n := Nat.one_le_iff_ne_zero.mpr hpos
    obtain ⟨k, hk⟩ := (Nat.modEq_iff_dvd' hone).mp hn.symm
    have hsplit : n = (p - 1) * k + 1 := by omega
    have hfermat : m ^ (p - 1) ≡ 1 [MOD p] := by
      rw [← Nat.totient_prime hp]
      exact Nat.ModEq.pow_totient hc
    calc m ^ n = (m ^ (p - 1)) ^ k * m := by rw [hsplit, pow_succ, pow_mul]
      _ ≡ 1 ^ k * m [MOD p] := (hfermat.pow k).mul_right m
      _ = m := by simp

/-- The numbers of a key that a signature depends on: two different primes, their product, and
exponents that are inverse to each other modulo the order. -/
structure PrivateKey.IsValid (key : PrivateKey) : Prop where
  prime1 : key.prime1.Prime
  prime2 : key.prime2.Prime
  distinct : key.prime1 ≠ key.prime2
  modulus : key.modulus = key.prime1 * key.prime2
  inverse : key.privateExponent * key.publicExponent ≡ 1 [MOD key.order]

namespace PrivateKey
variable {key : PrivateKey}

lemma IsValid.exponents_ne_zero (hv : key.IsValid) :
    key.privateExponent * key.publicExponent ≠ 0 := by
  intro hz
  have hone : key.order ∣ 1 := by
    have hh := hv.inverse
    rw [hz] at hh
    exact (Nat.modEq_zero_iff_dvd).mp hh.symm
  have h1 := hv.prime1.two_le
  have h2 := hv.prime2.two_le
  have hd1 : key.prime1 - 1 ∣ 1 := (Nat.dvd_lcm_left _ _).trans hone
  have hd2 : key.prime2 - 1 ∣ 1 := (Nat.dvd_lcm_right _ _).trans hone
  have hne := hv.distinct
  rw [Nat.dvd_one] at hd1 hd2
  omega

/-- Raising to the one exponent and then to the other changes no number below the modulus. -/
lemma IsValid.pow_mul_mod (hv : key.IsValid) {m : ℕ} (hm : m < key.modulus) :
    m ^ (key.privateExponent * key.publicExponent) % key.modulus = m := by
  have hpos := hv.exponents_ne_zero
  have hco : Nat.Coprime key.prime1 key.prime2 :=
    (Nat.coprime_primes hv.prime1 hv.prime2).mpr hv.distinct
  have h1 := pow_modEq_self hv.prime1 hpos (hv.inverse.of_dvd (Nat.dvd_lcm_left _ _)) m
  have h2 := pow_modEq_self hv.prime2 hpos (hv.inverse.of_dvd (Nat.dvd_lcm_right _ _)) m
  have hh := (Nat.modEq_and_modEq_iff_modEq_mul hco).mp ⟨h1, h2⟩
  rw [← hv.modulus] at hh
  rwa [Nat.ModEq, Nat.mod_eq_of_lt hm] at hh

lemma IsValid.modulus_pos (hv : key.IsValid) : 0 < key.modulus := by
  rw [hv.modulus]
  exact Nat.mul_pos hv.prime1.pos hv.prime2.pos

end PrivateKey

/-- The bytes of a modulus hold it, and its first byte is not zero. -/
lemma PublicKey.size_bounds {key : PublicKey} (hpos : 0 < key.modulus) :
    256 ^ (key.size - 1) ≤ key.modulus ∧ key.modulus < 256 ^ key.size := by
  have hbits : key.bits = key.modulus.log2 + 1 := by
    simp [PublicKey.bits, bitLength, hpos.ne']
  have hlo := Nat.log2_self_le hpos.ne'
  have hhi := Nat.lt_log2_self (n := key.modulus)
  have hsize : key.size = key.modulus.log2 / 8 + 1 := by
    simp only [PublicKey.size, hbits]
    omega
  rw [hsize]
  have hbase : (256 : ℕ) = 2 ^ 8 := rfl
  constructor
  · refine le_trans ?_ hlo
    rw [hbase, ← pow_mul]
    exact Nat.pow_le_pow_right (by omega) (by omega)
  · refine lt_of_lt_of_le hhi ?_
    rw [hbase, ← pow_mul]
    exact Nat.pow_le_pow_right (by omega) (by omega)

lemma encodeMessage?_eq_some {hash : Hash} {size : ℕ} {message encoded : Bytes}
    (h : encodeMessage? hash size message = some encoded) :
    encoded.length = size ∧ ∃ rest, encoded = 0 :: rest := by
  simp only [encodeMessage?] at h
  split at h
  case isTrue hle =>
    obtain rfl := Option.some.inj h
    refine ⟨?_, _, rfl⟩
    simp only [List.length_append, List.length_cons, List.length_replicate] at hle ⊢
    omega
  case isFalse => cases h

lemma PrivateKey.IsValid.toNat_raise {key : PrivateKey} (hv : key.IsValid) (encoded : Bytes) :
    Bytes.toNat (key.raise encoded) =
      Bytes.toNat encoded ^ key.privateExponent % key.modulus := by
  have hhi : key.publicKey.modulus < 256 ^ key.publicKey.size :=
    (PublicKey.size_bounds hv.modulus_pos).2
  rw [raise, Bytes.toNat_ofNat, powMod_eq]
  exact Nat.mod_eq_of_lt ((Nat.mod_lt _ hv.modulus_pos).trans hhi)

/-- A signature made with a valid key is accepted under its public half. -/
theorem PrivateKey.verify_of_sign? {key : PrivateKey} (hv : key.IsValid) {hash : Hash}
    {message signature : Bytes} (hs : key.sign? hash message = some signature) :
    key.publicKey.verify hash message signature = true := by
  obtain ⟨encoded, he, rfl⟩ := Option.map_eq_some_iff.mp hs
  obtain ⟨hlen, rest, hrest⟩ := encodeMessage?_eq_some he
  have hlo : 256 ^ (key.publicKey.size - 1) ≤ key.modulus :=
    (@PublicKey.size_bounds key.publicKey hv.modulus_pos).1
  have hsmall : Bytes.toNat encoded < key.modulus := by
    have hh := Bytes.toNat_lt rest
    have hr : rest.length = key.publicKey.size - 1 := by
      rw [← hlen, hrest]
      rfl
    rw [hrest, Bytes.toNat_zero_cons]
    exact lt_of_lt_of_le (hr ▸ hh) hlo
  have hback : powMod (Bytes.toNat encoded ^ key.privateExponent % key.modulus)
      key.publicExponent key.modulus = Bytes.toNat encoded := by
    rw [powMod_eq, ← Nat.pow_mod, ← pow_mul]
    exact hv.pow_mul_mod hsmall
  have hbytes : Bytes.ofNat key.publicKey.size (Bytes.toNat encoded) = encoded := by
    rw [← hlen]
    exact Bytes.ofNat_toNat encoded
  have hsize : (key.raise encoded).length = key.publicKey.size := Bytes.length_ofNat _ _
  simp only [PublicKey.verify, hv.toNat_raise, hsize, he, beq_self_eq_true, Bool.true_and,
    Bool.and_eq_true, decide_eq_true_eq]
  refine ⟨Nat.mod_lt _ hv.modulus_pos, ?_⟩
  change (some encoded ==
    some (Bytes.ofNat key.publicKey.size (powMod _ key.publicExponent key.modulus))) = true
  rw [hback, hbytes, beq_self_eq_true]

@[simp] lemma PrivateKey.signAs?_plain (key : PrivateKey) (hash : Hash) (random : ℕ → UInt8)
    (message : Bytes) : key.signAs? (.plain hash) random message = key.sign? hash message := rfl

/-- The bytes that a key needs to sign with a hash. -/
def leastSize : Hash → ℕ
  | .sha256 => 62
  | .sha384 => 78
  | .sha512 => 94

lemma PrivateKey.exists_sign? {key : PrivateKey} (hash : Hash)
    (hsize : leastSize hash ≤ key.publicKey.size) (message : Bytes) :
    ∃ signature, key.sign? hash message = some signature := by
  have hdigest : (digestHeader hash ++ hash.digest message).length + 11 ≤ leastSize hash := by
    rw [List.length_append]
    have htake (bytes : Bytes) (size : ℕ) : (bytes.take size).length ≤ size :=
      List.length_take_le _ _
    cases hash with
    | sha256 => exact Nat.add_le_add_right (Nat.add_le_add_left (htake _ 32) 19) 11
    | sha384 => exact Nat.add_le_add_right (Nat.add_le_add_left (htake _ 48) 19) 11
    | sha512 => exact Nat.add_le_add_right (Nat.add_le_add_left (htake _ 64) 19) 11
  simp only [sign?, encodeMessage?, if_pos (hdigest.trans hsize)]
  exact ⟨_, rfl⟩

end MockIssuer.Rsa
