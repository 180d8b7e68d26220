import MockIssuer.Proofs.HarnessLifecycle
import MockIssuer.Proofs.HostStart

/-!
# Calls in the wrong phase

A harness rejects what is asked of it in the wrong phase. A setter, a set-up and a request for a
builder or a token are checked before anything is done, so a rejected one has no effect. To enter a
harness is to set it up and to clean up where that fails, and the clean-up does not tell a set-up
that was rejected from one that failed: it tears the harness down, whatever it was doing
(`rejected_call`).
-/
namespace MockIssuer

lemma Failure.isOrdinary_of_rejection {failure : Failure}
    (h : failure.family = "HarnessStateError") : failure.isOrdinary = true := by
  unfold Failure.isOrdinary
  rw [h]
  decide

lemma World.family_of_bind_error {world bound : World} {host : String} {port : ℤ}
    {failure : Failure} (h : world.bind host port = (.error failure, bound)) :
    failure.family ≠ "HarnessStateError" := by
  rcases World.bind_error (congrArg Prod.fst h) with ⟨fault, rfl⟩ | ⟨_, -, rfl⟩ | ⟨rfl, -⟩
  · simp [Failure.family]
  · simp [Failure.family]
  · simp [Failure.family]

lemma AppHost.family_refusedBySystem (fault : SystemFault) :
    (Failure.refusedBySystem fault).family ≠ "HarnessStateError" := by
  intro hf
  have hwithin := (Family.isWithin_ofSystemNumber fault.number).1
  rw [show Family.ofSystemNumber fault.number = "HarnessStateError" from hf] at hwithin
  revert hwithin
  decide

/-- A host that was not started yet fails to start for reasons of its own: the system, the
directory, the port, or the application, whose ordinary failures are told as failed starts. -/
lemma AppHost.family_of_start_error {host : AppHost} (hn : host.server = none) {directory : Path}
    {port : ℤ} {world : World} {failure : Failure}
    (h : (host.start directory port world).result = .error failure) :
    failure.family ≠ "HarnessStateError" := by
  unfold start at h
  rw [hn] at h
  simp only [Option.isSome_none, Bool.false_eq_true, if_false] at h
  split at h
  · obtain rfl := Except.error.inj h
    exact family_refusedBySystem _
  · obtain rfl := Except.error.inj h
    simp [Failure.family]
  · obtain rfl := Except.error.inj h
    exact family_refusedBySystem _
  · unfold startIn at h
    simp only at h
    split at h
    · cases h
    · next cause _ _ _ =>
      split_ifs at h with hordinary
      · obtain rfl := Except.error.inj h
        rw [startFailure_family]
        simp
      · obtain rfl := Except.error.inj h
        intro hf
        exact hordinary (Failure.isOrdinary_of_rejection hf)

namespace Harness

/-- An operation on a harness that belongs to one of its phases. -/
inductive Call where
  | set (setter : Setter)
  | setup
  | enter
  | tokenBuilder
  | createToken

/-- The phase that an operation belongs to. -/
def Call.phase : Call → Phase
  | .set _ | .setup | .enter => .notStarted
  | .tokenBuilder | .createToken => .running

/-- The outcome of an operation, without the value that it answers. -/
def call (harness : Harness) (world : World) : Call → Outcome Harness Unit
  | .set setter =>
    match harness.set setter with
    | .error failure => ⟨.error failure, harness, world⟩
    | .ok after => ⟨.ok (), after, world⟩
  | .setup => harness.setup world
  | .enter => harness.enter world
  | .tokenBuilder => ⟨(harness.tokenBuilder world).map fun _ => (), harness, world⟩
  | .createToken =>
    ⟨(harness.createToken world).1.map fun _ => (), harness, (harness.createToken world).2⟩

/-- An outcome that leaves the harness and the world as they were. -/
def IsUnaffected (harness : Harness) (world : World) (outcome : Outcome Harness Unit) : Prop :=
  outcome.self = harness ∧ outcome.world = world

section Rejected
variable {harness : Harness} {world : World} {failure : Failure}

lemma configure_error {operation : Operation} {changes : Raw.Fields}
    (h : harness.configure operation changes = .error failure)
    (hf : failure.family = "HarnessStateError") : harness.phase ≠ .notStarted := by
  unfold configure requireNotStarted at h
  by_cases hp : harness.phase = .notStarted
  · rw [if_pos hp] at h
    simp only at h
    split at h
    · cases h
    · obtain rfl := Except.error.inj h
      simp [Failure.family] at hf
  · exact hp

lemma call_set_error {setter : Setter}
    (h : (harness.call world (.set setter)).result = .error failure) :
    harness.set setter = .error failure ∧
      harness.call world (.set setter) = ⟨.error failure, harness, world⟩ := by
  simp only [call] at h ⊢
  cases hs : harness.set setter with
  | ok after =>
    simp only [hs] at h
    cases h
  | error cause =>
    simp only [hs] at h ⊢
    obtain rfl := Except.error.inj h
    exact ⟨rfl, rfl⟩

lemma eq_error_of_map {α β : Type} {result : Except Failure α} {f : α → β}
    (h : result.map f = .error failure) : result = .error failure := by
  cases result with
  | ok value => cases h
  | error cause => exact congrArg _ (Except.error.inj h)

lemma set_error {setter : Setter} (h : harness.set setter = .error failure)
    (hf : failure.family = "HarnessStateError") : harness.phase ≠ .notStarted := by
  cases setter with
  | port port => exact configure_error h hf
  | clientId clientId => exact configure_error h hf
  | keyId keyId => exact configure_error h hf
  | keys keys =>
    change harness.setKeys keys = .error failure at h
    intro hp
    unfold setKeys requireNotStarted at h
    rw [if_pos hp] at h
    cases h
  | applicationServer directory port =>
    change harness.useApplicationServer directory port = .error failure at h
    unfold useApplicationServer at h
    split at h
    · obtain rfl := Except.error.inj h
      simp [Failure.family] at hf
    · exact configure_error h hf

lemma family_of_resolve_error {service : Service} {url : String}
    (h : Endpoints.resolve service url = .error failure) :
    failure.family ≠ "HarnessStateError" := by
  cases service with
  | xsuaa =>
    change Endpoints.ofUrl url = .error failure at h
    unfold Endpoints.ofUrl at h
    split_ifs at h
    obtain rfl := Except.error.inj h
    simp [Failure.family]
  | ias =>
    obtain rfl := Except.error.inj h
    simp [Failure.family]

lemma family_of_keySetStub_error {url keyId : String} {keys : Keys}
    (h : keySetStub url keys keyId = .error failure) : failure.family ≠ "HarnessStateError" := by
  cases keys with
  | pair keys => cases h
  | other value =>
    obtain rfl := Except.error.inj h
    simp [Failure.family]

/-- The steps of a set-up start what was not started before, so none of them is rejected. -/
lemma family_of_startAll_error {after : Harness} {world' : World}
    (h : harness.startAll world = ⟨.error failure, after, world'⟩) :
    failure.family ≠ "HarnessStateError" := by
  unfold startAll at h
  rcases startApp_cases harness world with ⟨directory, cause, host, last, -, hstart, hs⟩ |
    ⟨appHost, first, -, hs⟩
  · rw [hs] at h
    simp only [Outcome.mk.injEq, Except.error.injEq] at h
    obtain ⟨rfl, -, -⟩ := h
    have hn : newHost.server = none := rfl
    exact AppHost.family_of_start_error hn (congrArg Outcome.result hstart)
  rw [hs] at h
  simp only at h
  rcases startMock_cases { harness with appHost := appHost } first with ⟨cause, hbind, hm⟩ |
    ⟨port, thread, bound, second, -, hm, -⟩
  · rw [hm] at h
    simp only [Outcome.mk.injEq, Except.error.injEq] at h
    obtain ⟨rfl, -, -⟩ := h
    exact World.family_of_bind_error hbind
  rw [hm] at h
  simp only at h
  have howned : ({ harness with
      appHost := appHost
      mockServer := some (harness.startedMock first port thread) } : Harness).mockServer =
        some (harness.startedMock first port thread) := rfl
  rcases publish_cases howned (localUrl port) second with ⟨cause, hresolve, hp⟩ |
    ⟨endpoints, -, hrest⟩
  · have hh := h.symm.trans hp
    simp only [Outcome.mk.injEq, Except.error.injEq] at hh
    obtain ⟨rfl, -, -⟩ := hh
    exact family_of_resolve_error hresolve
  rcases hrest with ⟨cause, hstub, hp⟩ | ⟨stub, third, -, hp, -⟩
  · have hh := h.symm.trans hp
    simp only [Outcome.mk.injEq, Except.error.injEq] at hh
    obtain ⟨rfl, -, -⟩ := hh
    exact family_of_keySetStub_error hstub
  · cases h.symm.trans hp

lemma setup_rejected (h : (harness.setup world).result = .error failure)
    (hf : failure.family = "HarnessStateError") : harness.phase ≠ .notStarted ∧
      harness.setup world = ⟨.error (.tooLate .setup harness.phase), harness, world⟩ := by
  rcases setup_cases harness world with hrejected | ⟨-, begun, -, hcases⟩
  · exact hrejected
  rcases hcases with ⟨_, _, _, _, -, hs, -⟩ | ⟨cause, _, _, _, -, hall, hs, -⟩ |
    ⟨cause, _, _, -, hall, hs⟩
  · rw [hs] at h
    cases h
  · rw [hs] at h
    obtain rfl := Except.error.inj h
    exact absurd hf (family_of_startAll_error hall)
  · rw [hs] at h
    obtain rfl := Except.error.inj h
    exact absurd hf (family_of_startAll_error hall)

/-- To enter a harness is rejected where its set-up is, and then leaves what a teardown leaves. -/
lemma enter_rejected (h : (harness.enter world).result = .error failure)
    (hf : failure.family = "HarnessStateError") : harness.phase ≠ .notStarted ∧
      (harness.enter world).self = (harness.teardown world).self ∧
      (harness.teardown world).world.SameState (harness.enter world).world := by
  rcases enter_cases harness world with ⟨he, hnone⟩ | ⟨cause, hs, -, he, hself, hworld⟩
  · rw [he] at h
    have hordinary := Failure.isOrdinary_of_rejection hf
    rw [hnone failure h] at hordinary
    cases hordinary
  · rw [he] at h
    obtain rfl := Except.error.inj h
    obtain ⟨hp, hsetup⟩ := setup_rejected hs hf
    rw [hsetup] at hself hworld
    exact ⟨hp, hself, hworld⟩

lemma enter_of_stopped (hp : harness.phase = .stopped) (world : World) :
    harness.IsUnaffected world (harness.enter world) := by
  have hsetup : harness.setup world =
      ⟨.error (.tooLate .setup harness.phase), harness, world⟩ := by
    unfold setup requireNotStarted
    rw [hp]
    rfl
  have hordinary : (Failure.tooLate .setup harness.phase).isOrdinary = true :=
    Failure.isOrdinary_of_rejection rfl
  have hteardown : harness.teardown world = ⟨.ok (), harness, world⟩ := by
    unfold teardown
    rw [if_pos (Or.inr hp)]
  unfold IsUnaffected enter
  rw [hsetup]
  simp only [hordinary, if_true, hteardown, and_self]

/-- What a teardown changes: a harness that has been set up is never left as it was. -/
lemma teardown_self_ne (hnew : harness.phase ≠ .notStarted) (hold : harness.phase ≠ .stopped) :
    (harness.teardown world).self ≠ harness := by
  intro heq
  unfold teardown at heq
  rw [if_neg (not_or.2 ⟨hnew, hold⟩)] at heq
  by_cases hspent : harness.isSpent = true
  · rw [if_pos hspent] at heq
    exact hold (by rw [← heq])
  · rw [if_neg hspent] at heq
    rcases stopAll_self { harness with phase := .stopping } world with ⟨-, hs⟩ | ⟨-, hs⟩
    · rw [hs] at heq
      exact hold (by rw [← heq]; rfl)
    · rw [hs] at heq
      refine hspent ?_
      rw [← heq]
      rfl

lemma teardown_of_running (hp : harness.phase = .running) (world : World) :
    ∃ phase, phase ≠ .running ∧ (harness.teardown world).self = harness.tornDown phase := by
  rcases teardown_cases harness world with ⟨hidle, -⟩ | ⟨hfailed, -⟩ | ⟨-, -, ht⟩
  · rw [hp] at hidle
    rcases hidle with hidle | hidle <;> cases hidle
  · rw [hp] at hfailed
    cases hfailed
  · rw [ht]
    rcases stopAll_self { harness with phase := .stopping } world with ⟨-, hs⟩ | ⟨-, hs⟩
    · exact ⟨.stopped, Phase.noConfusion, hs⟩
    · exact ⟨.failed, Phase.noConfusion, hs⟩

end Rejected

/-- A call is rejected in the wrong phase only. A rejected call has no effect on the harness and its
world, unless it is to enter a harness that is not stopped: this tears the harness down, so that one
that was running runs no more and owns nothing. -/
theorem rejected_call {harness : Harness} (h : harness.Reachable) (call : Call) (world : World)
    {failure : Failure} (hr : (harness.call world call).result = .error failure)
    (hf : failure.family = "HarnessStateError") :
    harness.phase ≠ call.phase ∧
    (harness.IsUnaffected world (harness.call world call) ↔
      call ≠ .enter ∨ harness.phase = .stopped) ∧
    (call = .enter → (harness.call world call).self = (harness.teardown world).self ∧
      (harness.teardown world).world.SameState (harness.call world call).world) ∧
    (call = .enter → harness.phase = .running → ∃ phase, phase ≠ .running ∧
      (harness.call world call).self = harness.tornDown phase) := by
  cases call with
  | set setter =>
    obtain ⟨hset, hcall⟩ := call_set_error hr
    refine ⟨set_error hset hf, ?_, Call.noConfusion, Call.noConfusion⟩
    simp [IsUnaffected, hcall]
  | setup =>
    obtain ⟨hp, hs⟩ := setup_rejected hr hf
    refine ⟨hp, ?_, Call.noConfusion, Call.noConfusion⟩
    simp [IsUnaffected, Harness.call, hs]
  | enter =>
    obtain ⟨hp, hself, hworld⟩ := enter_rejected hr hf
    refine ⟨hp, ?_, fun _ => ⟨hself, hworld⟩, fun _ hrunning => ?_⟩
    · constructor
      · intro hunaffected
        by_contra hno
        obtain ⟨-, hold⟩ := not_or.1 hno
        exact teardown_self_ne hp hold (hself.symm.trans hunaffected.1)
      · intro hcases
        rcases hcases with hne | hold
        · exact absurd rfl hne
        · exact enter_of_stopped hold world
    · obtain ⟨phase, hne, ht⟩ := teardown_of_running hrunning world
      exact ⟨phase, hne, hself.trans ht⟩
  | tokenBuilder =>
    have hp := (h.consistent.tokenBuilder_refused_iff world).1 ⟨failure, eq_error_of_map hr, hf⟩
    refine ⟨hp, ?_, Call.noConfusion, Call.noConfusion⟩
    simp [IsUnaffected, Harness.call]
  | createToken =>
    have hp := (h.consistent.createToken_refused_iff world).1 ⟨failure, eq_error_of_map hr, hf⟩
    have hworld : (harness.createToken world).2 = world := by
      rw [createToken, tokenBuilder_of_ne hp world]
    refine ⟨hp, ?_, Call.noConfusion, Call.noConfusion⟩
    simp [IsUnaffected, Harness.call, hworld]

/-- A harness that runs keeps running where a setting comes too late. -/
theorem late_setting_unaffected :
    let running := (fresh.setup {}).self
    let world := (fresh.setup {}).world
    let late := Call.set (.clientId (.json (.string "late")))
    running.Reachable ∧ running.phase = .running ∧
    (running.call world late).result = .error (.tooLate .setClientId .running) ∧
    running.IsUnaffected world (running.call world late) := by
  intro running world late
  have hreachable : running.Reachable :=
    ⟨_, _, fresh, new_fresh, .single ⟨_, _, .setup fresh {}⟩⟩
  have hp : running.phase = .running := by rfl
  have hrejected : (running.call world late).result =
      .error (.tooLate .setClientId .running) := by rfl
  obtain ⟨-, hunaffected, -⟩ := rejected_call hreachable late world hrejected rfl
  exact ⟨hreachable, hp, hrejected, hunaffected.2 (Or.inl nofun)⟩

/-- A harness that runs is torn down where it is entered, although this is rejected: the mock server
is stopped and its port given back. -/
theorem running_enter_torn_down :
    let running := (fresh.setup {}).self
    let world := (fresh.setup {}).world
    running.Reachable ∧ running.phase = .running ∧ running.mockServer.isSome = true ∧
    world.bound = [50000] ∧
    (running.call world .enter).result = .error (.tooLate .setup .running) ∧
    (Failure.tooLate .setup .running).family = "HarnessStateError" ∧
    (running.call world .enter).self.phase = .stopped ∧
    (running.call world .enter).self.mockServer.isNone = true ∧
    (running.call world .enter).world.bound = [] := by
  intro running world
  exact ⟨⟨_, _, fresh, new_fresh, .single ⟨_, _, .setup fresh {}⟩⟩, by rfl, by rfl, by rfl, by rfl,
    by rfl, by rfl, by rfl, by rfl⟩

end Harness

end MockIssuer
