import Mathlib
import MockIssuer.World.Sockets

/-!
# Free ports

The search for a free port looks at one port more than are held, so it ends at a port that nobody
holds (`isHeld_freePort`). A port that is bound was therefore free before, and nothing but the list
of bound ports and the place of the search changes, and a port that is not bound leaves everything
as it was (`bind_cases`).
-/
namespace MockIssuer.World

lemma isHeld_eq_false_iff {world : World} {port : ℕ} : world.isHeld port = false ↔
    port ∉ world.bound ∧ (port : ℤ) ∉ world.takenPorts := by
  simp [isHeld]

/-- The search ends at a port that is free, or all ports that it looked at are held. -/
lemma firstFree_cases (world : World) (fuel port : ℕ) :
    world.isHeld (world.firstFree fuel port) = false ∨
      ∀ other, port ≤ other → other < port + fuel → world.isHeld other = true := by
  induction fuel generalizing port with
  | zero => exact Or.inr fun other hl hu => by omega
  | succ fuel ih =>
    unfold firstFree
    cases hh : world.isHeld port with
    | false => exact Or.inl (by simpa using hh)
    | true =>
      rw [if_pos rfl]
      refine (ih (port + 1)).imp_right fun hall other hl hu => ?_
      by_cases he : other = port
      · rw [he, hh]
      · exact hall other (by omega) (by omega)

/-- Not all of more ports than are held can be held. -/
lemma length_le_of_isHeld (world : World) {ports : List ℕ} (hn : ports.Nodup)
    (hh : ∀ port ∈ ports, world.isHeld port = true) :
    ports.length ≤ world.bound.length + world.takenPorts.length := by
  have hsub : ports.map (Nat.cast : ℕ → ℤ) ⊆
      world.bound.map (Nat.cast : ℕ → ℤ) ++ world.takenPorts := by
    intro port hport
    obtain ⟨other, hother, rfl⟩ := List.mem_map.1 hport
    have hheld := hh other hother
    simp only [isHeld, Bool.or_eq_true, List.contains_iff_mem] at hheld
    rcases hheld with hb | ht
    · exact List.mem_append_left _ (List.mem_map_of_mem hb)
    · exact List.mem_append_right _ ht
  have hnodup : (ports.map (Nat.cast : ℕ → ℤ)).Nodup := hn.map Nat.cast_injective
  have hle := (hnodup.subperm hsub).length_le
  simpa using hle

/-- The next free port is free. -/
theorem isHeld_freePort (world : World) : world.isHeld world.freePort = false := by
  rcases world.firstFree_cases (world.bound.length + world.takenPorts.length + 1)
    world.nextPort with hfree | hall
  · exact hfree
  · have hle := length_le_of_isHeld world (List.nodup_range' (s := world.nextPort)
      (n := world.bound.length + world.takenPorts.length + 1)) fun port hport => by
        obtain ⟨i, hi, rfl⟩ := List.mem_range'.1 hport
        exact hall _ (by omega) (by omega)
    rw [List.length_range'] at hle
    omega

/-- All that binding a port can come to: there is a failure, told as what it is, and nothing has
changed; or a port is bound that nobody held, and it is the one that was asked for unless that was
zero. -/
theorem bind_cases (world : World) (host : String) (requested : ℤ) :
    (∃ failure, world.bind host requested = (.error failure, world) ∧
      ((∃ fault, failure = .bind host requested fault) ∨
        (∃ fault, world.hostFault? host = some fault ∧ failure = .wrongType fault) ∨
        failure = .outOfRange .port ∧ (requested < 0 ∨ 65535 < requested))) ∨
    ∃ port next, world.bind host requested =
        (.ok port, { world with bound := world.bound ++ [port], nextPort := next }) ∧
      world.isHeld port = false ∧ (requested ≠ 0 → (port : ℤ) = requested) := by
  unfold bind listen bindAddress
  cases hhost : world.hostFault? host with
  | some fault => exact Or.inl ⟨_, rfl, Or.inr (Or.inl ⟨fault, rfl, rfl⟩)⟩
  | none =>
    simp only
    by_cases hword : fitsPortWord requested = true
    · simp only [hword, Bool.not_true, Bool.false_eq_true, if_false]
      by_cases hbad : world.badHosts.contains host = true
      · simp only [hbad, if_true]
        exact Or.inl ⟨_, rfl, Or.inl ⟨_, rfl⟩⟩
      by_cases hrange : requested < 0 ∨ 65535 < requested
      · simp only [hbad, if_pos hrange, Bool.false_eq_true, if_false]
        exact Or.inl ⟨_, rfl, Or.inr (Or.inr ⟨rfl, hrange⟩)⟩
      by_cases hdenied : world.deniedPorts.contains requested = true
      · simp only [hbad, hrange, hdenied, if_true, Bool.false_eq_true, if_false]
        exact Or.inl ⟨_, rfl, Or.inl ⟨_, rfl⟩⟩
      by_cases hzero : requested = 0
      · simp only [hbad, hrange, hdenied, if_pos hzero, Bool.false_eq_true, if_false]
        exact Or.inr ⟨_, _, rfl, world.isHeld_freePort, fun hne => absurd hzero hne⟩
      cases hheld : world.isHeld requested.toNat with
      | true =>
        simp only [hbad, hrange, hdenied, hzero, if_true, Bool.false_eq_true, if_false]
        exact Or.inl ⟨_, rfl, Or.inl ⟨_, rfl⟩⟩
      | false =>
        simp only [hbad, hrange, hdenied, hzero, Bool.false_eq_true, if_false]
        exact Or.inr ⟨_, world.nextPort, rfl, hheld, fun _ => by omega⟩
    · simp only [hword, Bool.not_false, if_true]
      refine Or.inl ⟨_, rfl, Or.inr (Or.inr ⟨rfl, ?_⟩)⟩
      simp only [fitsPortWord, Bool.and_eq_true, decide_eq_true_eq] at hword
      omega

/-- A port that is bound was held by nobody, and is the only thing that is bound. -/
theorem bind_free {world bound : World} {host : String} {requested : ℤ} {port : ℕ}
    (h : world.bind host requested = (.ok port, bound)) :
    world.isHeld port = false ∧ ∃ next, bound = { world with
      bound := world.bound ++ [port], nextPort := next } := by
  rcases world.bind_cases host requested with ⟨failure, hb, -⟩ | ⟨port', next, hb, hfree, -⟩
  · cases hb.symm.trans h
  · obtain ⟨hport, rfl⟩ := Prod.mk.inj (hb.symm.trans h)
    obtain rfl := Except.ok.inj hport
    exact ⟨hfree, next, rfl⟩

/-- A port that is bound was not bound before. -/
theorem bind_ok {world bound : World} {host : String} {requested : ℤ} {port : ℕ}
    (h : world.bind host requested = (.ok port, bound)) :
    port ∉ world.bound ∧ ∃ next, bound = { world with
      bound := world.bound ++ [port], nextPort := next } :=
  (bind_free h).imp_left fun hfree => (isHeld_eq_false_iff.1 hfree).1

lemma bind_requested {world : World} {host : String} {requested : ℤ} {port : ℕ}
    (hr : requested ≠ 0) (h : (world.bind host requested).1 = .ok port) :
    (port : ℤ) = requested := by
  rcases world.bind_cases host requested with ⟨failure, hb, -⟩ | ⟨port', next, hb, -, hport⟩
  · rw [hb] at h
    cases h
  · rw [hb] at h
    obtain rfl := Except.ok.inj h
    exact hport hr

/-- A port is refused by the system, or what was given is no host, or the port is outside the
range. -/
lemma bind_error {world : World} {host : String} {requested : ℤ} {failure : Failure}
    (h : (world.bind host requested).1 = .error failure) :
    (∃ fault, failure = .bind host requested fault) ∨
      (∃ fault, world.hostFault? host = some fault ∧ failure = .wrongType fault) ∨
      failure = .outOfRange .port ∧ (requested < 0 ∨ 65535 < requested) := by
  rcases world.bind_cases host requested with ⟨failure', hb, hcases⟩ | ⟨port, next, hb, -, -⟩
  · rw [hb] at h
    obtain rfl := Except.error.inj h
    exact hcases
  · rw [hb] at h
    cases h

lemma bind_of_error {world : World} {host : String} {port : ℤ} {failure : Failure}
    (h : (world.bind host port).1 = .error failure) : (world.bind host port).2 = world := by
  rcases world.bind_cases host port with ⟨failure', hb, -⟩ | ⟨_, _, hb, -, -⟩
  · rw [hb]
  · rw [hb] at h
    cases h

end MockIssuer.World
