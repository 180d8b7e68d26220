import MockIssuer.Proofs.CollectedTeardowns

/-!
# What the message of a teardown shows

Failures form trees, and the message of a failed teardown shows a line for each failure below it,
however deep: the line of a failure holds its message, which holds the lines of its causes. A stop
of a server, of a host, of a harness and of many harnesses each make one level of the tree. So the
message of a failed teardown shows each step that failed, and why (`teardown_shows_steps`).
-/
namespace MockIssuer

namespace Failure

/-- How a failure appears in the message of the one above it. -/
def line (failure : Failure) : String :=
  failure.family ++ ": " ++ failure.message

/-- The failure is a cause of the other, or a cause of one of its causes, and so on. -/
def IsBelow : Failure → Failure → Prop :=
  Relation.TransGen fun cause failure => cause ∈ failure.causes

/-- The text stands in the message of the failure. -/
def Shows (failure : Failure) (text : String) : Prop :=
  text.toList <:+: failure.message.toList

/-- The lines of causes, in their order. -/
def causeLines (causes : List Failure) : String :=
  "; ".intercalate (causes.map line)

lemma causesText_cons (cause : Failure) (causes : List Failure) :
    causesText (cause :: causes) = "; " ++ cause.family ++ ": " ++ cause.message ++
      causesText causes := rfl

lemma message_teardown_cons (fault : TeardownFault) (cause : Failure) (causes : List Failure) :
    (teardown fault (cause :: causes)).message =
      fault.message ++ " (" ++ cause.family ++ ": " ++ cause.message ++ causesText causes := rfl

lemma causeLines_cons (cause : Failure) (causes : List Failure) :
    causeLines (cause :: causes) ++ ")" = cause.line ++ causesText causes := by
  induction causes generalizing cause with
  | nil => rw [causeLines, List.map_singleton, String.intercalate_singleton]; rfl
  | cons next rest ih =>
    have hnext := ih next
    simp only [causeLines, List.map_cons, String.intercalate_cons_cons, String.append_assoc] at *
    rw [hnext, causesText_cons]
    simp only [line, String.append_assoc]

/-- The message of a failed teardown has the lines of its causes in brackets behind its own text. -/
lemma message_teardown (fault : TeardownFault) {causes : List Failure} (h : causes ≠ []) :
    (teardown fault causes).message = fault.message ++ " (" ++ causeLines causes ++ ")" := by
  obtain ⟨cause, rest, rfl⟩ := List.exists_cons_of_ne_nil h
  rw [String.append_assoc, causeLines_cons, message_teardown_cons, line]
  simp only [String.append_assoc]

lemma infix_intercalate {separator text : String} {texts : List String} (h : text ∈ texts) :
    text.toList <:+: (separator.intercalate texts).toList := by
  induction texts with
  | nil => cases h
  | cons first rest ih =>
    cases rest with
    | nil =>
      obtain rfl := List.mem_singleton.1 h
      rw [String.intercalate_singleton]
    | cons next rest =>
      rw [String.intercalate_cons_cons, String.toList_append, String.toList_append]
      obtain rfl | hrest := List.mem_cons.1 h
      · rw [List.append_assoc]
        exact (List.prefix_append _ _).isInfix
      · exact (ih hrest).trans (List.suffix_append _ _).isInfix

lemma shows_cause {cause failure : Failure} (h : cause ∈ failure.causes) :
    failure.Shows cause.line := by
  cases failure with
  | teardown fault causes =>
    have hsome : causes ≠ [] := List.ne_nil_of_mem h
    rw [Shows, message_teardown fault hsome, String.toList_append, String.toList_append]
    have hline : cause.line.toList <:+: (causeLines causes).toList :=
      infix_intercalate (List.mem_map_of_mem h)
    exact (hline.trans (List.suffix_append _ _).isInfix).trans (List.prefix_append _ _).isInfix
  | _ => cases h

lemma Shows.of_line {failure cause : Failure} {text : String} (h : failure.Shows cause.line)
    (ht : cause.Shows text) : failure.Shows text := by
  refine List.IsInfix.trans ?_ h
  rw [line, String.toList_append]
  exact List.IsInfix.trans ht (List.suffix_append _ _).isInfix

lemma IsBelow.ne_nil {below : Failure} {fault : TeardownFault} {causes : List Failure}
    (h : below.IsBelow (.teardown fault causes)) : causes ≠ [] := by
  cases h with
  | single hcause => exact List.ne_nil_of_mem hcause
  | tail _ hcause => exact List.ne_nil_of_mem hcause

lemma shows_of_isBelow {below failure : Failure} (h : below.IsBelow failure) :
    failure.Shows below.line := by
  induction h with
  | single hcause => exact shows_cause hcause
  | tail _ hcause ih => exact (shows_cause hcause).of_line ih

/-- The message of a failure shows a line for each failure below it, and the lines of the causes of
one teardown stand in their order. -/
structure ShowsCauses (failure : Failure) : Prop where
  below : ∀ below : Failure, below.IsBelow failure → failure.Shows below.line
  order : ∀ fault causes, failure = .teardown fault causes → causes ≠ [] →
    failure.message = fault.message ++ " (" ++ "; ".intercalate (causes.map line) ++ ")"

lemma showsCauses (failure : Failure) : failure.ShowsCauses where
  below _ h := shows_of_isBelow h
  order fault _ h hsome := h ▸ message_teardown fault hsome

end Failure

/-- The operation fails, and the other failure is below its failure and shown by it. -/
def Outcome.Reports {σ α : Type} (outcome : Outcome σ α) (below : Failure) : Prop :=
  ∃ failure, outcome.result = .error failure ∧ below.IsBelow failure ∧ failure.Shows below.line

lemma Outcome.Reports.of_isBelow {σ α : Type} {outcome : Outcome σ α} {below failure : Failure}
    (hf : outcome.result = .error failure) (h : below.IsBelow failure) : outcome.Reports below :=
  ⟨failure, hf, h, Failure.shows_of_isBelow h⟩

lemma BackgroundServer.stop_failure? (server : BackgroundServer) {world : World}
    {timeout : Number.Binary64} (ht : server.Awaits world timeout) :
    (server.stop world).failure? = server.stopFailure? timeout := by
  obtain ⟨world', hs, -⟩ := stop_eq ht
  rw [hs]
  cases server.stopFailure? timeout <;> rfl

namespace AppHost

/-- The failed steps of a stop, in their order: that of the server and the removal of the working
area. -/
def failedSteps (host : AppHost) (world : World) : List Failure :=
  (host.server.bind fun server => (server.stop world).failure?).toList ++
    ((host.workingArea.bind (removalFault? world)).map .refusedBySystem).toList

/-- A step of a stop that fails. The working area is only removed if the step before it does not end
the stop. -/
inductive FailedStep (host : AppHost) (world : World) : Failure → Prop
  | server {server : BackgroundServer} {failure : Failure} (hs : host.server = some server)
      (hf : (server.stop world).failure? = some failure) : FailedStep host world failure
  | area {area : Location} {fault : SystemFault} (hs : (host.stopServer world).failure? = none)
      (ha : host.workingArea = some area) (hf : removalFault? world area = some fault) :
      FailedStep host world (.refusedBySystem fault)

lemma failedSteps_eq {host : AppHost} {world : World} {timeout : Number.Binary64}
    (ht : host.Awaits world timeout) :
    host.failedSteps world = host.stopFailures world timeout := by
  unfold failedSteps stopFailures
  cases hserver : host.server with
  | none => rfl
  | some server =>
    rw [Option.bind_some, Option.bind_some, server.stop_failure? (ht server hserver)]

lemma stop_result (host : AppHost) (world : World) :
    (host.stop world).result = answer (host.failedSteps world) ∨
    ∃ failure, (host.stop world).result = .error failure ∧
      (host.stopServer world).failure? = some failure ∧
      ∀ server ∈ host.server, (server.stop world).failure? = some failure := by
  cases hfault : host.server.bind (·.timeoutFault? world) with
  | none =>
    obtain ⟨timeout, ht⟩ := exists_awaits hfault
    obtain ⟨world', hs, -⟩ := stop_eq ht
    rw [hs, failedSteps_eq ht]
    exact Or.inl rfl
  | some failure =>
    refine Or.inr ⟨failure, by rw [stop_of_timeoutFault hfault], ?_, fun server hserver => ?_⟩
    · rw [stopServer_of_timeoutFault hfault]
      rfl
    · rw [Option.mem_def.1 hserver, Option.bind_some] at hfault
      rw [BackgroundServer.stop_of_timeoutFault hfault]
      rfl

lemma FailedStep.mem {host : AppHost} {world : World} {step : Failure}
    (h : host.FailedStep world step) : step ∈ host.failedSteps world := by
  cases h with
  | server hs hf => simp [failedSteps, hs, hf]
  | area hs ha hf => simp [failedSteps, ha, hf]

lemma answer_of_ne_nil {failures : List Failure} (h : failures ≠ []) :
    answer failures = .error (.teardown .applicationServer failures) := by
  obtain ⟨first, rest, rfl⟩ := List.exists_cons_of_ne_nil h
  rfl

/-- A failed step makes the stop fail, with its own failure or one above it. -/
lemma FailedStep.stop_error {host : AppHost} {world : World} {step : Failure}
    (h : host.FailedStep world step) :
    ∃ failure, (host.stop world).result = .error failure ∧
      (step = failure ∨ step.IsBelow failure) := by
  obtain hr | ⟨failure, hr, hserver, hstop⟩ := host.stop_result world
  · rw [answer_of_ne_nil (List.ne_nil_of_mem h.mem)] at hr
    exact ⟨_, hr, Or.inr (.single h.mem)⟩
  · refine ⟨failure, hr, Or.inl ?_⟩
    cases h with
    | server hs hstep =>
      have hsame := hstop _ hs
      rw [hstep] at hsame
      exact Option.some.inj hsame
    | area hnone ha harea =>
      rw [hnone] at hserver
      cases hserver

/-- What a stop of a host says of its steps: it reports all that failed, unless the first one ends
it. -/
def ReportsSteps (host : AppHost) (world : World) : Prop :=
  (host.stop world).result = answer (host.failedSteps world) ∨
  ∃ failure, (host.stop world).result = .error failure ∧
    (host.stopServer world).failure? = some failure

lemma reportsSteps (host : AppHost) (world : World) : host.ReportsSteps world := by
  obtain hreported | ⟨failure, hr, hserver, -⟩ := host.stop_result world
  · exact Or.inl hreported
  · exact Or.inr ⟨failure, hr, hserver⟩

end AppHost

namespace Harness

/-- The failed steps of a teardown, in their order: the stop of the mock server, and the stop of the
host in the world that the first one leaves. -/
def failedSteps (harness : Harness) (world : World) : List Failure :=
  (harness.mockServer.bind fun mock => (mock.stop world).failure?).toList ++
    (harness.appHost.bind fun host => (host.stop (harness.stopMock world).2.2).failure?).toList

/-- A step of a teardown that fails, or a step of one of its steps. -/
inductive FailedStep (harness : Harness) (world : World) : Failure → Prop
  | mockServer {mock : MockServer} {failure : Failure} (hm : harness.mockServer = some mock)
      (hf : (mock.stop world).failure? = some failure) : FailedStep harness world failure
  | appHost {host : AppHost} {failure : Failure} (hh : harness.appHost = some host)
      (hf : (host.stop (harness.stopMock world).2.2).failure? = some failure) :
      FailedStep harness world failure
  | ofAppHost {host : AppHost} {failure : Failure} (hh : harness.appHost = some host)
      (hf : host.FailedStep (harness.stopMock world).2.2 failure) :
      FailedStep harness world failure

lemma stopMock_failures (harness : Harness) (world : World) :
    (harness.stopMock world).1 =
      (harness.mockServer.bind fun mock => (mock.stop world).failure?).toList := by
  unfold stopMock
  cases harness.mockServer with
  | none => rfl
  | some mock =>
    simp only [Option.bind_some]
    rcases mock.stop world with ⟨failure | ⟨⟩, left, after⟩ <;> rfl

lemma stopApp_failures (harness : Harness) (world : World) :
    (harness.stopApp world).1 =
      (harness.appHost.bind fun host => (host.stop world).failure?).toList := by
  unfold stopApp
  cases harness.appHost with
  | none => rfl
  | some host =>
    simp only [Option.bind_some]
    rcases host.stop world with ⟨failure | ⟨⟩, left, after⟩ <;> rfl

lemma failedSteps_phase (harness : Harness) (phase : Phase) (world : World) :
    { harness with phase := phase }.failedSteps world = harness.failedSteps world := by
  unfold failedSteps stopMock
  cases harness.mockServer with
  | none => rfl
  | some mock =>
    simp only
    rcases mock.stop world with ⟨failure | ⟨⟩, left, after⟩ <;> rfl

lemma stopAll_result (harness : Harness) (world : World) :
    (harness.stopAll world).result = answer (harness.failedSteps world) := by
  have hsteps : (harness.stopMock world).1 ++
      ((harness.stopMock world).2.1.stopApp (harness.stopMock world).2.2).1 =
        harness.failedSteps world := by
    rw [stopMock_failures, stopApp_failures, stopMock_self]
    rfl
  unfold stopAll
  simp only [hsteps]
  cases harness.failedSteps world <;> rfl

lemma teardown_answer {harness : Harness} (hnew : harness.phase ≠ .notStarted)
    (hold : harness.phase ≠ .stopped) (world : World) :
    (harness.teardown world).result = answer (harness.failedSteps world) := by
  obtain ⟨hidle, -⟩ | ⟨-, hm, hh, ht⟩ | ⟨-, -, ht⟩ := teardown_cases harness world
  · exact absurd hidle (by simp [hnew, hold])
  · rw [ht, failedSteps, hm, hh]
    rfl
  · rw [ht, stopAll_result, failedSteps_phase]

lemma answer_of_ne_nil {failures : List Failure} (h : failures ≠ []) :
    answer failures = .error (.teardown .harness failures) := by
  obtain ⟨first, rest, rfl⟩ := List.exists_cons_of_ne_nil h
  rfl

lemma eq_of_teardown_error {harness : Harness} {world : World} {failure : Failure}
    (h : (harness.teardown world).result = .error failure) :
    failure = .teardown .harness (harness.failedSteps world) := by
  by_cases hidle : harness.phase = .notStarted ∨ harness.phase = .stopped
  · rw [teardown, if_pos hidle] at h
    cases h
  · obtain ⟨hnew, hold⟩ := not_or.1 hidle
    rw [teardown_answer hnew hold] at h
    by_cases hsteps : harness.failedSteps world = []
    · rw [hsteps] at h
      cases h
    · rw [answer_of_ne_nil hsteps] at h
      exact (Except.error.inj h).symm

lemma FailedStep.isBelow {harness : Harness} {world : World} {step : Failure}
    (h : harness.FailedStep world step) :
    step.IsBelow (.teardown .harness (harness.failedSteps world)) := by
  cases h with
  | mockServer hm hstep => exact .single (by simp [Failure.causes, failedSteps, hm, hstep])
  | appHost hh hstep => exact .single (by simp [Failure.causes, failedSteps, hh, hstep])
  | ofAppHost hh hstep =>
    obtain ⟨failure, hf, hbelow⟩ := hstep.stop_error
    have hhost : failure.IsBelow (.teardown .harness (harness.failedSteps world)) :=
      .single (by simp [Failure.causes, failedSteps, hh, Outcome.failure?_eq_some.2 hf])
    obtain rfl | hbelow := hbelow
    · exact hhost
    · exact hbelow.trans hhost

lemma FailedStep.teardown_error {harness : Harness} {world : World} {step : Failure}
    (h : harness.FailedStep world step) (hnew : harness.phase ≠ .notStarted)
    (hold : harness.phase ≠ .stopped) :
    (harness.teardown world).result = .error (.teardown .harness (harness.failedSteps world)) := by
  rw [teardown_answer hnew hold, answer_of_ne_nil h.isBelow.ne_nil]

/-! ### Many harnesses -/

/-- What is reported where some harnesses are torn down: the failed teardowns, in the order in which
they were tried. -/
def reported (harnesses : List Harness) (world : World) : List Failure :=
  (teardowns harnesses.reverse world).filterMap (·.failure?)

lemma teardowns_append (front back : List Harness) (world : World) :
    teardowns (front ++ back) world =
      teardowns front world ++ teardowns back (teardownsWorld front world) := by
  induction front generalizing world with
  | nil => rfl
  | cons harness rest ih =>
    rw [List.cons_append, teardowns, ih, teardowns, List.cons_append]
    rfl

lemma tearDownAll_result (harnesses : List Harness) (world : World) :
    (tearDownAll harnesses world).result = match reported harnesses world with
      | [] => .ok ()
      | failures => .error (.teardown .factory failures) := by
  unfold tearDownAll reported
  rw [tearDownEach_eq]
  cases (teardowns harnesses.reverse world).filterMap (·.failure?) <;> rfl

/-- The failed teardown of one of some harnesses is reported. -/
lemma isBelow_reported {front back harnesses : List Harness} {harness : Harness} {world : World}
    {below : Failure} (hsplit : harnesses.reverse = front ++ harness :: back)
    (hf : (harness.teardown (teardownsWorld front world)).result = .error below) :
    below.IsBelow (.teardown .factory (reported harnesses world)) := by
  refine .single (List.mem_filterMap.2 ⟨harness.teardown (teardownsWorld front world), ?_, ?_⟩)
  · rw [hsplit, teardowns_append]
    exact List.mem_append_right _ List.mem_cons_self
  · exact Outcome.failure?_eq_some.2 hf

lemma tearDownAll_error {harnesses : List Harness} {world : World}
    (h : reported harnesses world ≠ []) :
    (tearDownAll harnesses world).result =
      .error (.teardown .factory (reported harnesses world)) := by
  obtain ⟨first, rest, hsome⟩ := List.exists_cons_of_ne_nil h
  rw [tearDownAll_result, hsome]

lemma eq_of_tearDownAll_error {harnesses : List Harness} {world : World} {failure : Failure}
    (h : (tearDownAll harnesses world).result = .error failure) :
    failure = .teardown .factory (reported harnesses world) := by
  by_cases hnone : reported harnesses world = []
  · rw [tearDownAll_result, hnone] at h
    cases h
  · rw [tearDownAll_error hnone] at h
    exact (Except.error.inj h).symm

/-- What a teardown says of its steps: it reports all that failed, and fails if one did. -/
structure ReportsSteps (harness : Harness) (world : World) : Prop where
  reported : ∀ failure, (harness.teardown world).result = .error failure →
    failure = .teardown .harness (harness.failedSteps world)
  shown : ∀ failure, (harness.teardown world).result = .error failure →
    ∀ step, harness.FailedStep world step → (harness.teardown world).Reports step
  fails : harness.phase ≠ .notStarted → harness.phase ≠ .stopped →
    ∀ step, harness.FailedStep world step → (harness.teardown world).Reports step

lemma reportsSteps (harness : Harness) (world : World) : harness.ReportsSteps world where
  reported _ hf := eq_of_teardown_error hf
  shown failure hf step hstep := by
    obtain rfl := eq_of_teardown_error hf
    exact .of_isBelow hf hstep.isBelow
  fails hnew hold _ hstep := .of_isBelow (hstep.teardown_error hnew hold) hstep.isBelow

/-- What the teardown of some harnesses says of each of them: it reports the failed teardowns, and
whatever failed in one of them. -/
structure ReportsTeardowns (harnesses : List Harness) (world : World) : Prop where
  reported : ∀ failure, (tearDownAll harnesses world).result = .error failure →
    failure = .teardown .factory (reported harnesses world)
  below : ∀ front harness back below, harnesses.reverse = front ++ harness :: back →
    (harness.teardown (teardownsWorld front world)).result = .error below →
    (tearDownAll harnesses world).Reports below
  steps : ∀ front harness back below, harnesses.reverse = front ++ harness :: back →
    (harness.teardown (teardownsWorld front world)).result = .error below →
    ∀ step, harness.FailedStep (teardownsWorld front world) step →
      (tearDownAll harnesses world).Reports step

lemma reportsTeardowns (harnesses : List Harness) (world : World) :
    ReportsTeardowns harnesses world where
  reported _ hf := eq_of_tearDownAll_error hf
  below front harness back below hsplit hf := by
    have hbelow := isBelow_reported hsplit hf
    exact .of_isBelow (tearDownAll_error hbelow.ne_nil) hbelow
  steps front harness back below hsplit hf step hstep := by
    have hbelow := isBelow_reported hsplit hf
    obtain rfl := eq_of_teardown_error hf
    exact .of_isBelow (tearDownAll_error hbelow.ne_nil) (hstep.isBelow.trans hbelow)

/-- The message of a failure shows every failure below it. A stop of a host, a teardown and the
teardown of many harnesses have what failed in them as causes, so the message of a failed teardown
shows every failed step, of one harness or of each of many; and a step that fails makes the teardown
fail. -/
theorem teardown_shows_steps :
    (∀ failure : Failure, failure.ShowsCauses) ∧
    (∀ (host : AppHost) world, host.ReportsSteps world) ∧
    (∀ (harness : Harness) world, harness.ReportsSteps world) ∧
    ∀ harnesses world, ReportsTeardowns harnesses world :=
  ⟨Failure.showsCauses, AppHost.reportsSteps, reportsSteps, reportsTeardowns⟩

/-- What a mock server says that does not finish. -/
def unfinishedMock : Failure :=
  .teardown (.unfinished MockServer.serverName 50000 Environment.defaultShutdownTimeout) []

/-- The mock server of the second harness goes on, and the message of the teardown of both says so
below what failed in between. -/
theorem stuck_server_shown :
    (Failure.teardown .factory [.teardown .harness [unfinishedMock]]).message =
      "security harness teardown failed (ResourceTeardownError: harness teardown failed " ++
        "(ResourceTeardownError: mock-identity-server on port 50000 did not stop within 5.0s))" ∧
    (Failure.teardown .factory [.teardown .harness [unfinishedMock]]).Shows unfinishedMock.line ∧
    stuck.failedSteps {} = [unfinishedMock] ∧
    reported [fresh, stuck] {} = [.teardown .harness [unfinishedMock]] ∧
    (stuck.teardown {}).Reports unfinishedMock ∧
    (tearDownAll [fresh, stuck] {}).Reports unfinishedMock := by
  obtain ⟨hcauses, -, hharness, hall⟩ := teardown_shows_steps
  have hstep : stuck.FailedStep {} unfinishedMock := .mockServer rfl rfl
  have hf : (stuck.teardown {}).result = .error (.teardown .harness [unfinishedMock]) := by rfl
  have hr : (tearDownAll [fresh, stuck] {}).result =
      .error (.teardown .factory [.teardown .harness [unfinishedMock]]) := by rfl
  refine ⟨?_, ?_, ?_, ?_, (hharness stuck {}).fails (by decide) (by decide) _ hstep, ?_⟩
  · refine ((hcauses _).order .factory _ rfl (List.cons_ne_nil _ _)).trans ?_
    decide +kernel
  · exact (hcauses _).below _ (.tail (.single List.mem_cons_self) List.mem_cons_self)
  · exact (Failure.teardown.inj ((hharness stuck {}).reported _ hf)).2.symm
  · exact (Failure.teardown.inj ((hall [fresh, stuck] {}).reported _ hr)).2.symm
  · exact (hall [fresh, stuck] {}).steps [] stuck [fresh] _ rfl hf _ hstep

end Harness

end MockIssuer
