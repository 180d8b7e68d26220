import MockIssuer.Proofs.ModularPower

/-!
# Primes pass the test

The test of primality refuses no prime (`isProbablePrime_of_prime`). By Fermat's little theorem the
power that is looked at comes to one after as many squarings as two divides the number below the
prime, and one has two square roots only, so the last number before one is the prime less one.
-/
namespace MockIssuer.Rsa

lemma pow_twos_dvd (fuel n : ℕ) : 2 ^ twos fuel n ∣ n := by
  induction fuel generalizing n with
  | zero => simp [twos]
  | succ fuel ih =>
    rw [twos]
    split_ifs with heven
    · obtain ⟨k, hk⟩ := ih (n / 2)
      refine ⟨k, ?_⟩
      rw [pow_succ]
      have hn : n = 2 * (n / 2) := by omega
      calc n = 2 * (2 ^ twos fuel (n / 2) * k) := by rw [← hk]; exact hn
        _ = 2 ^ twos fuel (n / 2) * 2 * k := by ring
    · simp

/-- Modulo a prime, one has two square roots only. -/
lemma eq_one_or_of_mul_self {p x : ℕ} (hp : p.Prime) (hx : x < p) (h : x * x % p = 1) :
    x = 1 ∨ x = p - 1 := by
  have hpos : 0 < x := by
    rcases Nat.eq_zero_or_pos x with rfl | hpos
    · simp at h
    · exact hpos
  have hmod : 1 ≡ x * x [MOD p] := by
    rw [Nat.ModEq, h, Nat.mod_eq_of_lt hp.one_lt]
  have hfactors : (x - 1) * (x + 1) = x * x - 1 := by
    obtain ⟨y, rfl⟩ := Nat.exists_eq_add_of_lt hpos
    simp only [zero_add, Nat.add_sub_cancel]
    have hsquare : (y + 1) * (y + 1) = y * (y + 1 + 1) + 1 := by ring
    omega
  have hdvd : p ∣ (x - 1) * (x + 1) := by
    rw [hfactors]
    exact (Nat.modEq_iff_dvd' (Nat.mul_pos hpos hpos)).1 hmod
  rcases hp.dvd_mul.1 hdvd with hlow | hhigh
  · have hzero := Nat.eq_zero_of_dvd_of_lt hlow (by omega)
    omega
  · have hle := Nat.le_of_dvd (by omega) hhigh
    omega

/-- A number that is not one and comes to one by squarings passes the other root before. -/
lemma reachesMinusOne_of_pow {p : ℕ} (hp : p.Prime) {count x : ℕ} (hx : x < p) (hne : x ≠ 1)
    (hone : x ^ 2 ^ (count + 1) % p = 1) : reachesMinusOne p count x = true := by
  induction count generalizing x with
  | zero =>
    rw [zero_add, pow_one, pow_two] at hone
    have hlast := (eq_one_or_of_mul_self hp hx hone).resolve_left hne
    simp [reachesMinusOne, hlast]
  | succ count ih =>
    rw [reachesMinusOne, Bool.or_eq_true]
    by_cases hlast : x = p - 1
    · exact Or.inl (by simp [hlast])
    · refine Or.inr (ih (Nat.mod_lt _ hp.pos) (fun hsquare => ?_) ?_)
      · rcases eq_one_or_of_mul_self hp hx hsquare with h | h
        · exact hne h
        · exact hlast h
      · rw [← Nat.pow_mod, ← pow_two, ← pow_mul, ← pow_succ']
        exact hone

/-- No base shows that a prime is composite. -/
lemma passes_of_prime {p : ℕ} (hp : p.Prime) (base : ℕ) : passes p base = true := by
  unfold passes
  simp only [powMod_eq, Nat.pow_eq, Bool.or_eq_true, beq_iff_eq]
  by_cases hbase : base % p = 0
  · exact Or.inl (Or.inl hbase)
  set s := twos p.log2 (p - 1)
  set x := base ^ ((p - 1) / 2 ^ s) % p
  have hcoprime : Nat.Coprime base p :=
    ((hp.coprime_iff_not_dvd).2 fun hdvd => hbase (Nat.mod_eq_zero_of_dvd hdvd)).symm
  have hfermat : base ^ (p - 1) % p = 1 := by
    have hpow := Nat.ModEq.pow_totient hcoprime
    rwa [Nat.totient_prime hp, Nat.ModEq, Nat.mod_eq_of_lt hp.one_lt] at hpow
  have hsquares : x ^ 2 ^ s % p = 1 := by
    rw [← Nat.pow_mod, ← pow_mul, Nat.div_mul_cancel (pow_twos_dvd _ _), hfermat]
  by_cases hone : x = 1
  · exact Or.inl (Or.inr hone)
  refine Or.inr (reachesMinusOne_of_pow hp (Nat.mod_lt _ hp.pos) hone ?_)
  have hpos : s ≠ 0 := by
    intro hzero
    rw [hzero, pow_zero, pow_one, Nat.mod_mod] at hsquares
    exact hone hsquares
  rwa [Nat.sub_add_cancel (Nat.one_le_iff_ne_zero.2 hpos)]

/-- Every prime passes the test. -/
theorem isProbablePrime_of_prime {p : ℕ} (hp : p.Prime) : isProbablePrime p = true := by
  unfold isProbablePrime
  rcases hp.eq_two_or_odd with rfl | hodd
  · rfl
  · have htwo := hp.two_le
    have hlt : 2 < p := by
      rcases Nat.lt_or_eq_of_le htwo with hlt | rfl
      · exact hlt
      · omega
    have hall : bases.all (passes p) = true :=
      List.all_eq_true.2 fun base _ => passes_of_prime hp base
    simp [hlt, hodd, hall]

end MockIssuer.Rsa
