import MockIssuer.KeyPair
import MockIssuer.Proofs.DerElements
import MockIssuer.Proofs.ProbablePrimes
import MockIssuer.Proofs.RsaSignature

/-!
# Standard keys

A standard key has all the numbers that standards ask for, and an encoding. Its numbers belong
together (`PrivateKey.IsStandard.isConsistent`). The key of two primes is standard, and so is a key
pair that is made (`KeyPair.generate_isStandard`), if the test of primality has not been deceived.
-/
namespace MockIssuer

namespace Rsa
variable {key : PrivateKey}

/-- All eight numbers as standards have them, in a distinguished encoding. There is none for a key
whose encoding is too long: lengths are written up to `Der.lengthBound` only. -/
structure PrivateKey.IsStandard (key : PrivateKey) : Prop extends key.IsValid where
  exponent : 1 < key.publicExponent
  exponent1 : key.exponent1 = key.privateExponent % (key.prime1 - 1)
  exponent2 : key.exponent2 = key.privateExponent % (key.prime2 - 1)
  coefficient_lt : key.coefficient < key.prime1
  coefficient : key.coefficient * key.prime2 ≡ 1 [MOD key.prime1]
  encodable : key.toInfo.length < Der.lengthBound

/-- One of two different primes is odd, so the order is even. -/
lemma PrivateKey.IsValid.two_dvd_order (hv : key.IsValid) : 2 ∣ key.order := by
  have hdvd1 : key.prime1 - 1 ∣ key.order := Nat.dvd_lcm_left _ _
  have hdvd2 : key.prime2 - 1 ∣ key.order := Nat.dvd_lcm_right _ _
  have hne := hv.distinct
  rcases hv.prime1.eq_two_or_odd with htwo | hodd
  · rcases hv.prime2.eq_two_or_odd with htwo' | hodd
    · omega
    · exact (show 2 ∣ key.prime2 - 1 by omega).trans hdvd2
  · exact (show 2 ∣ key.prime1 - 1 by omega).trans hdvd1

/-- The numbers of a standard key belong together. -/
theorem PrivateKey.IsStandard.isConsistent (hs : key.IsStandard) : key.isConsistent = true := by
  have heven := hs.two_dvd_order
  have hproduct : key.privateExponent * key.publicExponent % 2 = 1 := hs.inverse.of_dvd heven
  have hodd : key.publicExponent % 2 = 1 := by
    rcases Nat.mod_two_eq_zero_or_one key.publicExponent with hzero | hone
    · rw [Nat.mul_mod, hzero, Nat.mul_zero] at hproduct
      cases hproduct
    · exact hone
  have hinverse : key.privateExponent * key.publicExponent % key.order = 1 := by
    have hne : key.order ≠ 1 := by omega
    rw [hs.inverse, Nat.one_mod_eq_one.2 hne]
  have hcoefficient : key.coefficient * key.prime2 % key.prime1 = 1 := by
    rw [hs.coefficient, Nat.mod_eq_of_lt hs.prime1.one_lt]
  simp [PrivateKey.isConsistent, hs.exponent, hodd, isProbablePrime_of_prime hs.prime1,
    isProbablePrime_of_prime hs.prime2, hs.modulus, hinverse, hs.exponent1, hs.exponent2,
    hs.coefficient_lt, hcoefficient]

namespace PrivateKey

lemma toInfo_eq (key : PrivateKey) : key.toInfo = Der.element Der.sequenceTag
    (Der.natural 0 ++ (rsaAlgorithm ++ Der.octetString key.toDer)) := by
  simp [toInfo, Der.sequence]

lemma encodable_of_lt {size : ℕ} (hsize : 9 * size + 3000 < Der.lengthBound)
    (h : ∀ n ∈ key.numbers, n < 256 ^ size) : key.toInfo.length < Der.lengthBound := by
  have hversion : (Der.natural 0).length = 3 := by decide +kernel
  have halgorithm : rsaAlgorithm.length = 15 := by decide +kernel
  have heach : ∀ n ∈ key.numbers, (Der.natural n).length ≤ size + 129 :=
    fun n hn => Der.length_natural_le (h n hn) (by omega)
  have hnumbers := Der.length_flatten_le heach
  rw [show key.numbers.length = 8 from rfl] at hnumbers
  have hkey : key.toDer.length ≤ 8 * size + 1200 := by
    have hcontents : (Der.natural 0 :: key.numbers.map Der.natural).flatten.length ≤
        8 * size + 1035 := by
      rw [List.flatten_cons, List.length_append, hversion]
      omega
    have hlt : (Der.natural 0 :: key.numbers.map Der.natural).flatten.length < Der.lengthBound := by
      omega
    have hle := Der.length_element_le_add Der.sequenceTag hlt
    rw [toDer, Der.sequence]
    omega
  have hinfo : (Der.natural 0 ++ (rsaAlgorithm ++ Der.octetString key.toDer)).length ≤
      8 * size + 1400 := by
    have hlt : key.toDer.length < Der.lengthBound := by omega
    have hle := Der.length_element_le_add Der.octetStringTag hlt
    simp only [List.length_append, hversion, halgorithm, Der.octetString]
    omega
  have hlt : (Der.natural 0 ++ (rsaAlgorithm ++ Der.octetString key.toDer)).length <
      Der.lengthBound := by
    omega
  have hle := Der.length_element_le_add Der.sequenceTag hlt
  rw [toInfo_eq]
  omega

end PrivateKey

section Made
variable {p q : ℕ}

lemma publicExponent_prime : publicExponent.Prime := by
  norm_num [publicExponent]

/-- The power that is taken for an inverse modulo a prime is one. -/
lemma powMod_mul_modEq_one {x : ℕ} (hp : p.Prime) (hx : ¬ p ∣ x) :
    powMod x (p - 2) p * x ≡ 1 [MOD p] := by
  have hcoprime : Nat.Coprime x p := ((hp.coprime_iff_not_dvd).2 hx).symm
  have hfermat := Nat.ModEq.pow_totient hcoprime
  have htwo := hp.two_le
  rw [Nat.totient_prime hp, show p - 1 = p - 2 + 1 by omega, pow_succ] at hfermat
  rw [powMod_eq]
  exact ((Nat.mod_modEq _ _).mul_right x).trans hfermat

lemma privateExponent_ofPrimes (h : ¬ publicExponent ∣ (ofPrimes p q).order) :
    (ofPrimes p q).privateExponent * publicExponent = 1 + (publicExponent -
      powMod ((ofPrimes p q).order % publicExponent) (publicExponent - 2) publicExponent) *
        (ofPrimes p q).order := by
  set order := (ofPrimes p q).order with horder
  set inverse := powMod (order % publicExponent) (publicExponent - 2) publicExponent with hinverse
  refine Nat.div_mul_cancel ((Nat.modEq_zero_iff_dvd).1 ?_)
  have hmod : ¬ publicExponent ∣ order % publicExponent := by
    rwa [Nat.dvd_mod_iff dvd_rfl]
  have hone : inverse * order ≡ 1 [MOD publicExponent] :=
    ((Nat.mod_modEq order publicExponent).mul_left inverse).symm.trans
      (powMod_mul_modEq_one publicExponent_prime hmod)
  have hle : inverse ≤ publicExponent := by
    rw [hinverse, powMod_eq]
    exact (Nat.mod_lt _ publicExponent_prime.pos).le
  calc 1 + (publicExponent - inverse) * order
      ≡ inverse * order + (publicExponent - inverse) * order [MOD publicExponent] :=
        hone.symm.add_right _
    _ = publicExponent * order := by rw [← Nat.add_mul, Nat.add_sub_cancel' hle]
    _ ≡ 0 [MOD publicExponent] := (Nat.modEq_zero_iff_dvd).2 (Dvd.intro _ rfl)

/-- The public exponent does not divide the order if it does not divide its factors. -/
lemma not_dvd_order (hp : (p - 1) % publicExponent ≠ 0) (hq : (q - 1) % publicExponent ≠ 0) :
    ¬ publicExponent ∣ (ofPrimes p q).order := by
  intro hdvd
  have hproduct : publicExponent ∣ (p - 1) * (q - 1) := hdvd.trans (Nat.lcm_dvd_mul _ _)
  rcases publicExponent_prime.dvd_mul.1 hproduct with h | h
  · exact hp (Nat.mod_eq_zero_of_dvd h)
  · exact hq (Nat.mod_eq_zero_of_dvd h)

lemma isValid_ofPrimes (hp : p.Prime) (hq : q.Prime) (hne : p ≠ q)
    (hpe : (p - 1) % publicExponent ≠ 0) (hqe : (q - 1) % publicExponent ≠ 0) :
    (ofPrimes p q).IsValid where
  prime1 := hp
  prime2 := hq
  distinct := hne
  modulus := rfl
  inverse := by
    change (ofPrimes p q).privateExponent * publicExponent ≡ 1 [MOD (ofPrimes p q).order]
    rw [privateExponent_ofPrimes (not_dvd_order hpe hqe)]
    exact (Nat.modEq_iff_dvd' (Nat.le_add_right _ _)).2 (by simp) |>.symm

lemma lt_of_mem_numbers_ofPrimes {bound : ℕ} (hp : p.Prime) (hq : q.Prime)
    (hpe : (p - 1) % publicExponent ≠ 0) (hqe : (q - 1) % publicExponent ≠ 0)
    (hexponent : publicExponent < bound) (hmodulus : p * q < bound) :
    ∀ n ∈ (ofPrimes p q).numbers, n < bound := by
  have hp1 := hp.one_lt
  have hq1 := hq.one_lt
  have hprime1 : p < bound := (Nat.le_mul_of_pos_right p hq.pos).trans_lt hmodulus
  have hprime2 : q < bound := (Nat.le_mul_of_pos_left q hp.pos).trans_lt hmodulus
  have horder : (ofPrimes p q).order ≤ (p - 1) * (q - 1) :=
    Nat.le_of_dvd (Nat.mul_pos (by omega) (by omega)) (Nat.lcm_dvd_mul _ _)
  have hproduct : (p - 1) * (q - 1) ≤ p * q := Nat.mul_le_mul (Nat.sub_le _ _) (Nat.sub_le _ _)
  have hprivate : (ofPrimes p q).privateExponent < bound := by
    have hexact := privateExponent_ofPrimes (not_dvd_order hpe hqe)
    have hle : (publicExponent -
        powMod ((ofPrimes p q).order % publicExponent) (publicExponent - 2) publicExponent) *
          (ofPrimes p q).order ≤ publicExponent * (ofPrimes p q).order :=
      Nat.mul_le_mul_right _ (Nat.sub_le _ _)
    have hone := publicExponent_prime.one_lt
    have hlt : publicExponent * (ofPrimes p q).privateExponent <
        publicExponent * ((ofPrimes p q).order + 1) := by
      rw [Nat.mul_comm, hexact, Nat.mul_succ]
      omega
    have hexponents := Nat.lt_of_mul_lt_mul_left hlt
    omega
  have hcoefficient : powMod q (p - 2) p < p := by
    rw [powMod_eq]
    exact Nat.mod_lt _ hp.pos
  intro n hn
  change n ∈ [p * q, publicExponent, (ofPrimes p q).privateExponent, p, q,
    (ofPrimes p q).privateExponent % (p - 1), (ofPrimes p q).privateExponent % (q - 1),
    powMod q (p - 2) p] at hn
  simp only [List.mem_cons, List.not_mem_nil, or_false] at hn
  rcases hn with rfl | rfl | rfl | rfl | rfl | rfl | rfl | rfl
  · exact hmodulus
  · exact hexponent
  · exact hprivate
  · exact hprime1
  · exact hprime2
  · exact (Nat.mod_le _ _).trans_lt hprivate
  · exact (Nat.mod_le _ _).trans_lt hprivate
  · exact hcoefficient.trans hprime1

/-- The key of two primes is standard, if its size is limited. -/
theorem isStandard_ofPrimes {size : ℕ} (hp : p.Prime) (hq : q.Prime) (hne : p ≠ q)
    (hpe : (p - 1) % publicExponent ≠ 0) (hqe : (q - 1) % publicExponent ≠ 0)
    (hsize : 9 * size + 3000 < Der.lengthBound) (hexponent : publicExponent < 256 ^ size)
    (hmodulus : p * q < 256 ^ size) : (ofPrimes p q).IsStandard where
  toIsValid := isValid_ofPrimes hp hq hne hpe hqe
  exponent := publicExponent_prime.one_lt
  exponent1 := rfl
  exponent2 := rfl
  coefficient_lt := by
    change powMod q (p - 2) p < p
    rw [powMod_eq]
    exact Nat.mod_lt _ hp.pos
  coefficient := powMod_mul_modEq_one hp fun hdvd => hne ((Nat.prime_dvd_prime_iff_eq hp hq).1 hdvd)
  encodable := PrivateKey.encodable_of_lt hsize
    (lt_of_mem_numbers_ofPrimes hp hq hpe hqe hexponent hmodulus)

lemma nextPrime?_eq_some {fuel n : ℕ} (h : nextPrime? fuel n = some p) :
    isKeyPrime p = true ∧ n ≤ p ∧ p < n + 2 * fuel := by
  induction fuel generalizing n with
  | zero => cases h
  | succ fuel ih =>
    rw [nextPrime?] at h
    by_cases hn : isKeyPrime n = true
    · rw [if_pos hn] at h
      obtain rfl := Option.some.inj h
      exact ⟨hn, le_rfl, by omega⟩
    · rw [if_neg hn] at h
      obtain ⟨hp, hle, hlt⟩ := ih h
      exact ⟨hp, by omega, by omega⟩

lemma isKeyPrime_exponent (h : isKeyPrime p = true) : (p - 1) % publicExponent ≠ 0 := by
  simp only [isKeyPrime, Bool.and_eq_true, bne_iff_ne] at h
  exact h.1.2

/-- The stretch that is searched for a prime is short beside its start. -/
lemma linear_le_pow {n : ℕ} (hn : 512 ≤ n) : 1024 * n ≤ 2 ^ (n - 2) := by
  have hlt : n - 22 < 2 ^ (n - 22) := Nat.lt_two_pow_self
  have hpow : 2 ^ (n - 2) = 2 ^ 20 * 2 ^ (n - 22) := by
    rw [show n - 2 = 20 + (n - 22) by omega, pow_add]
  rw [hpow]
  omega

/-- A key that is made is the key of two different numbers that pass for primes. -/
theorem generate?_eq_some {size : ℕ} (hsize : 1024 ≤ size) (h : generate? size = some key) :
    ∃ p q, key = ofPrimes p q ∧ isKeyPrime p = true ∧ isKeyPrime q = true ∧ p ≠ q ∧
      p * q < 256 ^ size := by
  unfold generate? at h
  simp only [Nat.pow_eq, Option.bind_eq_bind] at h
  obtain ⟨p, hp, h⟩ := Option.bind_eq_some_iff.1 h
  obtain ⟨q, hq, h⟩ := Option.bind_eq_some_iff.1 h
  obtain rfl := Option.some.inj h
  obtain ⟨hpkey, hple, hplt⟩ := nextPrime?_eq_some hp
  obtain ⟨hqkey, hqle, hqlt⟩ := nextPrime?_eq_some hq
  set high := (size + 1) / 2 with hhigh
  set low := size / 2 with hlow
  have hsmall := linear_le_pow (n := high) (by omega)
  have hquarter : 2 ^ high = 4 * 2 ^ (high - 2) := by
    have hsplit := pow_sub_mul_pow 2 (show 2 ≤ high by omega)
    omega
  have hpbound : p < 2 ^ high := by omega
  have hboth : q < 2 ^ high ∧ p ≠ q := by
    by_cases heven : high = low
    · rw [if_pos heven] at hqle hqlt
      exact ⟨by omega, by omega⟩
    · -- The second half is one bit shorter, so its primes lie below those of the first.
      rw [if_neg heven] at hqle hqlt
      have hlong : high - 2 = low - 2 + 1 := by omega
      have hshort := linear_le_pow (n := low) (by omega)
      have hhalf : 2 ^ (high - 2) = 2 * 2 ^ (low - 2) := by
        rw [hlong, pow_succ']
      exact ⟨by omega, by omega⟩
  refine ⟨p, q, rfl, hpkey, hqkey, hboth.2, ?_⟩
  calc p * q < 2 ^ high * 2 ^ high := Nat.mul_lt_mul'' hpbound hboth.1
    _ = 2 ^ (high + high) := (pow_add 2 high high).symm
    _ ≤ 2 ^ (8 * size) := Nat.pow_le_pow_right (by norm_num) (by omega)
    _ = 256 ^ size := by rw [pow_mul]; norm_num

end Made

end Rsa

/-- A key pair that is made is standard, if the numbers that passed for primes are primes. -/
theorem KeyPair.generate_isStandard {size : ℤ} {keys : KeyPair} (h : generate size = .ok keys)
    (hprime1 : keys.privateKey.prime1.Prime) (hprime2 : keys.privateKey.prime2.Prime) :
    keys.privateKey.IsStandard := by
  unfold generate at h
  split_ifs at h with hleast hbound
  have hlow : 1024 ≤ size.toNat := by
    unfold leastSize at hleast
    omega
  have hhigh : size.toNat < 4294967296 := by
    unfold sizeBound at hbound
    omega
  split at h
  · next key hkey =>
    obtain rfl := Except.ok.inj h
    obtain ⟨p, q, rfl, hp, hq, hne, hproduct⟩ := Rsa.generate?_eq_some hlow hkey
    have hencodable : 10 * 4294967296 < Der.lengthBound := by decide +kernel
    have hexponent : Rsa.publicExponent < 256 ^ size.toNat := by
      calc Rsa.publicExponent < 256 ^ 3 := by decide
        _ ≤ 256 ^ size.toNat := Nat.pow_le_pow_right (by norm_num) (by omega)
    exact Rsa.isStandard_ofPrimes hprime1 hprime2 hne (Rsa.isKeyPrime_exponent hp)
      (Rsa.isKeyPrime_exponent hq) (by omega) hexponent hproduct
  · cases h

end MockIssuer
