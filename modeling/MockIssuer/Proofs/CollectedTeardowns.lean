import MockIssuer.Proofs.HarnessLifecycle

/-!
# Teardowns of many harnesses

Where many harnesses are torn down, only failed teardowns are collected, and any other failure would
keep the rest from being torn down. There is no other: a teardown collects what its own two steps
report (`teardown_result`). So each harness is torn down once, the last one first, each in the world
that the one before it leaves, and what is reported is what failed, in this order.
-/
namespace MockIssuer

/-- The failure of an operation, where it failed. -/
def Outcome.failure? {σ α : Type} (outcome : Outcome σ α) : Option Failure :=
  match outcome.result with
  | .ok _ => none
  | .error failure => some failure

lemma Outcome.failure?_eq_some {σ α : Type} {outcome : Outcome σ α} {failure : Failure} :
    outcome.failure? = some failure ↔ outcome.result = .error failure := by
  unfold failure?
  cases outcome.result <;> simp

namespace Harness

/-- One teardown of each of some harnesses, each in the world that the one before it leaves. -/
def teardowns : List Harness → World → List (Outcome Harness Unit)
  | [], _ => []
  | harness :: rest, world =>
    harness.teardown world :: teardowns rest (harness.teardown world).world

/-- The world after them. -/
def teardownsWorld (harnesses : List Harness) (world : World) : World :=
  harnesses.foldl (fun world harness => (harness.teardown world).world) world

/-- A teardown that fails reports what its steps reported, and nothing else makes it fail. -/
lemma teardown_result (harness : Harness) (world : World) :
    (harness.teardown world).result = .ok () ∨
    ∃ cause causes, (harness.teardown world).result =
      .error (.teardown .harness (cause :: causes)) := by
  rcases teardown_cases harness world with ⟨-, ht⟩ | ⟨-, -, -, ht⟩ | ⟨-, -, ht⟩
  · exact Or.inl (by rw [ht])
  · exact Or.inl (by rw [ht])
  rw [ht]
  unfold stopAll
  simp only
  split
  · exact Or.inl rfl
  · next failures hsome =>
    obtain ⟨cause, causes, hcauses⟩ := List.exists_cons_of_ne_nil hsome
    exact Or.inr ⟨cause, causes, by rw [hcauses]⟩

/-- What a teardown leaves of a harness: it owns nothing more, it is new only if it was new before,
and it has failed exactly where the teardown did. -/
structure IsClosed (before : Harness) (outcome : Outcome Harness Unit) : Prop where
  mockServer : outcome.self.mockServer = none
  appHost : outcome.self.appHost = none
  binding : outcome.self.binding = none
  phase : outcome.self.phase = .notStarted ∨ outcome.self.phase = .stopped ∨
    outcome.self.phase = .failed
  new : outcome.self.phase = .notStarted ↔ before.phase = .notStarted
  failed : outcome.self.phase = .failed ↔ outcome.failure?.isSome = true

lemma Consistent.isClosed {harness : Harness} (hc : harness.Consistent) (world : World) :
    harness.IsClosed (harness.teardown world) := by
  rcases teardown_cases harness world with ⟨hidle, ht⟩ | ⟨hp, hm, hh, ht⟩ | ⟨hnew, -, ht⟩
  · obtain ⟨hm, hh⟩ := hc.idle hidle
    rw [ht]
    rcases hidle with hp | hp
    · have hb : harness.binding = none := hc.binding_eq_none (by rw [hp]; decide)
      exact ⟨hm, hh, hb, Or.inl hp, Iff.rfl, by simp [hp, Outcome.failure?]⟩
    · have hb : harness.binding = none := hc.binding_eq_none (by rw [hp]; decide)
      exact ⟨hm, hh, hb, Or.inr (Or.inl hp), Iff.rfl, by simp [hp, Outcome.failure?]⟩
  · have hb : harness.binding = none := hc.binding_eq_none (by rw [hp]; decide)
    rw [ht]
    exact ⟨hm, hh, hb, Or.inr (Or.inl rfl), by simp [hp], by simp [Outcome.failure?]⟩
  · rw [ht]
    rcases stopAll_self { harness with phase := .stopping } world with ⟨hr, hs⟩ | ⟨hr, hs⟩
    · have hnone : ({ harness with phase := .stopping }.stopAll world).failure? = none := by
        unfold Outcome.failure?
        rw [hr]
      exact ⟨by rw [hs]; rfl, by rw [hs]; rfl, by rw [hs]; rfl, by simp [hs, tornDown],
        by simp [hs, tornDown, hnew], by simp [hs, tornDown, hnone]⟩
    · have hsome : ({ harness with phase := .stopping }.stopAll world).failure?.isSome = true := by
        unfold Outcome.failure?
        cases hresult : ({ harness with phase := .stopping }.stopAll world).result with
        | ok _ =>
          rw [hresult] at hr
          cases hr
        | error failure => rfl
      exact ⟨by rw [hs]; rfl, by rw [hs]; rfl, by rw [hs]; rfl, by simp [hs, tornDown],
        by simp [hs, tornDown, hnew], by simp [hs, tornDown, hsome]⟩

lemma tearDownEach_eq (harnesses : List Harness) (world : World) :
    tearDownEach harnesses world = ⟨.ok ((teardowns harnesses world).filterMap (·.failure?)),
      (teardowns harnesses world).map (·.self), teardownsWorld harnesses world⟩ := by
  induction harnesses generalizing world with
  | nil => rfl
  | cons harness rest ih =>
    have hrest := ih (harness.teardown world).world
    unfold tearDownEach teardowns teardownsWorld
    rcases ht : harness.teardown world with ⟨result, left, after⟩
    rw [ht] at hrest
    obtain hresult | ⟨cause, causes, hresult⟩ := teardown_result harness world
    · obtain rfl : result = .ok () := by rw [← hresult, ht]
      simp [hrest, ht, teardownsWorld, Outcome.failure?]
    · obtain rfl : result = .error (.teardown .harness (cause :: causes)) := by rw [← hresult, ht]
      simp [hrest, ht, teardownsWorld, Outcome.failure?, Except.map]

lemma isClosed_teardowns {harnesses : List Harness}
    (hc : ∀ harness ∈ harnesses, harness.Consistent) (world : World) :
    List.Forall₂ IsClosed harnesses (teardowns harnesses world) := by
  induction harnesses generalizing world with
  | nil => exact .nil
  | cons harness rest ih =>
    obtain ⟨hfirst, hrest⟩ := List.forall_mem_cons.1 hc
    exact .cons (hfirst.isClosed world) (ih hrest _)

lemma failures_of_teardowns {harnesses : List Harness} {world : World} {failure : Failure}
    (hf : failure ∈ (teardowns harnesses world).filterMap (·.failure?)) :
    ∃ cause causes, failure = .teardown .harness (cause :: causes) := by
  induction harnesses generalizing world with
  | nil => cases hf
  | cons harness rest ih =>
    rw [teardowns, List.filterMap_cons] at hf
    cases hfirst : (harness.teardown world).failure? with
    | none =>
      rw [hfirst] at hf
      exact ih hf
    | some first =>
      rw [hfirst] at hf
      obtain rfl | hf := List.mem_cons.1 hf
      · rw [Outcome.failure?_eq_some] at hfirst
        obtain hok | ⟨cause, causes, herror⟩ := teardown_result harness world
        · rw [hok] at hfirst
          cases hfirst
        · rw [herror] at hfirst
          exact ⟨cause, causes, (Except.error.inj hfirst).symm⟩
      · exact ih hf

/-- Harnesses that were made one after the other are torn down once each, the last one first, in
any world and whatever state each is in. None of them owns anything afterwards. The failed teardowns
are reported together in this order, each with what its steps reported, and nothing else fails. -/
theorem tearDownAll_reports {harnesses : List Harness}
    (h : ∀ harness ∈ harnesses, harness.Reachable) (world : World) :
    ∃ outcomes failures, outcomes = teardowns harnesses.reverse world ∧
      failures = outcomes.filterMap (·.failure?) ∧
      (tearDownAll harnesses world).self = (outcomes.map (·.self)).reverse ∧
      (tearDownAll harnesses world).world = teardownsWorld harnesses.reverse world ∧
      List.Forall₂ IsClosed harnesses.reverse outcomes ∧
      ((tearDownAll harnesses world).result = .ok () ↔
        ∀ outcome ∈ outcomes, outcome.result = .ok ()) ∧
      (∀ failure, (tearDownAll harnesses world).result = .error failure →
        failure = .teardown .factory failures) ∧
      ∀ failure ∈ failures, ∃ cause causes, failure = .teardown .harness (cause :: causes) := by
  have hclosed := isClosed_teardowns
    (fun harness hmem => (h harness (List.mem_reverse.1 hmem)).consistent) world
  have hnil : (teardowns harnesses.reverse world).filterMap (·.failure?) = [] ↔
      ∀ outcome ∈ teardowns harnesses.reverse world, outcome.result = .ok () := by
    rw [List.filterMap_eq_nil_iff]
    refine forall₂_congr fun outcome _ => ?_
    unfold Outcome.failure?
    cases outcome.result <;> simp
  refine ⟨_, _, rfl, rfl, ?_⟩
  unfold tearDownAll
  rw [tearDownEach_eq]
  cases hfailures : (teardowns harnesses.reverse world).filterMap (·.failure?) with
  | nil =>
    refine ⟨rfl, rfl, hclosed, iff_of_true rfl (hnil.1 hfailures), ?_, ?_⟩
    · intro failure hf
      cases hf
    · intro failure hf
      cases hf
  | cons first rest =>
    have hsome : ¬ ∀ outcome ∈ teardowns harnesses.reverse world, outcome.result = .ok () := by
      rw [← hnil, hfailures]
      exact List.cons_ne_nil _ _
    refine ⟨rfl, rfl, hclosed, iff_of_false (by simp) hsome, ?_, ?_⟩
    · intro failure hf
      exact (Except.error.inj hf).symm
    · intro failure hf
      exact failures_of_teardowns (by rw [hfailures]; exact hf)

/-- A harness whose mock server never finishes. -/
def stuck : Harness :=
  (fresh.setup { behaviours := [(MockServer.serverName, .hangs)] }).self

lemma reachable_setup (world : World) : (fresh.setup world).self.Reachable :=
  ⟨_, _, fresh, new_fresh, .single ⟨_, _, .setup fresh world⟩⟩

/-- A running harness is torn down although the one made after it could not be. -/
theorem stuck_teardown_reported :
    (tearDownAll [fresh, (fresh.setup {}).self, stuck] {}).result =
      .error (.teardown .factory [.teardown .harness [.teardown
        (.unfinished MockServer.serverName 50000 Environment.defaultShutdownTimeout) []]]) ∧
    (tearDownAll [fresh, (fresh.setup {}).self, stuck] {}).self.map (·.phase) =
      [.notStarted, .stopped, .failed] := by
  have hnew : fresh.Reachable := ⟨_, _, fresh, new_fresh, .refl⟩
  have hall : ∀ harness ∈ [fresh, (fresh.setup {}).self, stuck], harness.Reachable := by
    simp only [List.forall_mem_cons]
    exact ⟨hnew, reachable_setup {}, reachable_setup _, fun _ hmem => by cases hmem⟩
  have hstuck : (teardowns [fresh, (fresh.setup {}).self, stuck].reverse {}).filterMap
      (·.failure?) = [.teardown .harness [.teardown
        (.unfinished MockServer.serverName 50000 Environment.defaultShutdownTimeout) []]] := by rfl
  have hphases : ((teardowns [fresh, (fresh.setup {}).self, stuck].reverse {}).map
      (·.self)).reverse.map (·.phase) = [.notStarted, .stopped, .failed] := by rfl
  obtain ⟨outcomes, failures, rfl, rfl, hself, -, -, hok, herror, -⟩ := tearDownAll_reports hall {}
  constructor
  · cases hr : (tearDownAll [fresh, (fresh.setup {}).self, stuck] {}).result with
    | ok done =>
      have hfirst : (stuck.teardown {}).result = .ok () :=
        hok.1 hr _ (List.mem_cons_self ..)
      cases hfirst
    | error failure => rw [herror failure hr, hstuck]
  · rw [hself, hphases]

end Harness

end MockIssuer
