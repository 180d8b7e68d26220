import MockIssuer.Proofs.SetUp

/-!
# What a teardown leaves

A stop gives back the port of a server, forgets the modules of a host and removes its working area,
in this order, and goes on where one of these fails. What is released and what fails is written down
once for a server, a host and a harness (`heldPorts`, `isLoaded`, `cleared`, `stopFailures`), and
each stop is shown to be just that, up to what it logs.
-/
namespace MockIssuer

namespace World

/-- The world without some of the bound ports. -/
def releaseAll (world : World) (ports : List ℕ) : World :=
  { world with bound := world.bound.filter (· ∉ ports) }

@[simp] lemma mem_bound_releaseAll {world : World} {ports : List ℕ} {port : ℕ} :
    port ∈ (world.releaseAll ports).bound ↔ port ∈ world.bound ∧ port ∉ ports := by
  simp [releaseAll]

lemma releaseAll_nil (world : World) : world.releaseAll [] = world := by
  simp [releaseAll]

end World

lemma Environment.readShutdownTimeout_error {environment : Environment} {failure : Failure}
    (h : environment.readShutdownTimeout = .error failure) :
    ∃ text, failure = .wrongValue (.realText text) := by
  unfold readShutdownTimeout at h
  split at h
  · cases h
  · split at h
    · cases h
    · exact ⟨_, (Except.error.inj h).symm⟩

/-- Seconds that joining a thread accepts. All below zero count as none, and the longest wait is one
of whole microseconds. -/
def Number.Binary64.IsAccepted (seconds : Number.Binary64) : Prop :=
  seconds.isNaN = false ∧ (seconds.negative = true ∨
    seconds.isFinite = true ∧ seconds.ratio.1 * 10 ^ 6 ≤ 9223372036854775 * seconds.ratio.2)

namespace BackgroundServer

lemma acceptsWait_iff {seconds : Number.Binary64} :
    acceptsWait seconds = true ↔ seconds.IsAccepted := by
  simp only [acceptsWait, Number.Binary64.IsAccepted, Bool.and_eq_true, Bool.or_eq_true,
    Bool.not_eq_true', decide_eq_true_eq]
  rfl

/-- Failures of a timeout: its text is no number, or no thread can be waited for that long. -/
inductive IsTimeoutFault : Failure → Prop
  | unread (text : String) : IsTimeoutFault (.wrongValue (.realText text))
  | notATime : IsTimeoutFault (.wrongValue .notATime)
  | tooLong : IsTimeoutFault (.outOfRange .wait)

lemma IsTimeoutFault.family_ne {failure : Failure} (h : IsTimeoutFault failure) :
    failure.family ≠ "ResourceTeardownError" := by
  cases h <;> simp [Failure.family]

/-- What is wrong with the timeout, where a server that was started needs one. -/
def timeoutFault? (server : BackgroundServer) (world : World) : Option Failure :=
  match server.running, world.environment.readShutdownTimeout with
  | none, _ => none
  | some _, .error failure => some failure
  | some running, .ok timeout => server.waitFault? running timeout world

/-- The thread of a server can be waited for that long, if there is one. -/
def Awaits (server : BackgroundServer) (world : World) (timeout : Number.Binary64) : Prop :=
  ∀ running, server.running = some running →
    world.environment.readShutdownTimeout = .ok timeout ∧
      server.waitFault? running timeout world = none

lemma awaits_of_isAccepted (server : BackgroundServer) {world : World}
    {timeout : Number.Binary64} (ht : world.environment.readShutdownTimeout = .ok timeout)
    (ha : timeout.IsAccepted) : server.Awaits world timeout := by
  intro running _
  refine ⟨ht, ?_⟩
  simp only [waitFault?, ha.1, acceptsWait_iff.2 ha, Bool.false_eq_true, if_false, if_true,
    ite_self]

lemma exists_awaits {server : BackgroundServer} {world : World}
    (h : server.timeoutFault? world = none) : ∃ timeout, server.Awaits world timeout := by
  unfold timeoutFault? at h
  split at h
  · next hidle => exact ⟨.zero false, fun running hr => by cases hidle.symm.trans hr⟩
  · cases h
  · next first timeout hr ht =>
    refine ⟨timeout, fun running hrunning => ⟨ht, ?_⟩⟩
    obtain rfl := Option.some.inj (hr.symm.trans hrunning)
    exact h

lemma isTimeoutFault_of_timeoutFault? {server : BackgroundServer} {world : World}
    {failure : Failure} (h : server.timeoutFault? world = some failure) :
    IsTimeoutFault failure := by
  unfold timeoutFault? at h
  split at h
  · cases h
  · next ht =>
    obtain rfl := Option.some.inj h
    obtain ⟨text, rfl⟩ := Environment.readShutdownTimeout_error ht
    exact .unread text
  · unfold waitFault? at h
    split_ifs at h
    · exact Option.some.inj h ▸ .notATime
    · exact Option.some.inj h ▸ .tooLong

/-- The ports that a server holds: its own while it has not given it back. -/
def heldPorts (server : BackgroundServer) : List ℕ :=
  match server.running with
  | some running => if running.holdsPort then [running.port] else []
  | none => []

/-- What fails where a server is stopped: its thread goes on, or had crashed. -/
def stopFailure? (server : BackgroundServer) (timeout : Number.Binary64) : Option Failure :=
  match server.running with
  | some ⟨port, _, .hanging⟩ => some (.teardown (.unfinished server.name port timeout) [])
  | some ⟨port, _, .crashed cause⟩ => some (.teardown (.crashed server.name port) [cause])
  | _ => none

/-- The server after a stop. -/
def stopped (server : BackgroundServer) : BackgroundServer :=
  { server with running := server.running.map fun running =>
      ⟨running.port, false, join running.thread⟩ }

/-- The answer of an operation with at most one failure. -/
def answer : Option Failure → Except Failure Unit
  | none => .ok ()
  | some failure => .error failure

lemma close_eq (running : Running) (world : World) :
    close running world = world.releaseAll (if running.holdsPort then [running.port] else []) := by
  unfold close
  split
  · simp [World.release, World.releaseAll]
  · simp [World.releaseAll]

lemma stop_eq {server : BackgroundServer} {world : World} {timeout : Number.Binary64}
    (ht : server.Awaits world timeout) :
    ∃ world', server.stop world =
        ⟨answer (server.stopFailure? timeout), server.stopped, world'⟩ ∧
      (world.releaseAll server.heldPorts).SameState world' := by
  unfold stop
  rcases hr : server.running with _ | ⟨port, holds, thread⟩
  · refine ⟨world, ?_, ?_⟩
    · have hself : server.stopped = server := by
        cases server
        simp_all [stopped]
      have hnone : server.stopFailure? timeout = none := by simp [stopFailure?, hr]
      simp only [hself, hnone]
      rfl
    · have hports : server.heldPorts = [] := by simp [heldPorts, hr]
      rw [hports, World.releaseAll_nil]
      exact .refl world
  · have hports : server.heldPorts = if holds then [port] else [] := by simp [heldPorts, hr]
    have hself : server.stopped = { server with running := some ⟨port, false, join thread⟩ } := by
      simp [stopped, hr]
    rw [hports, hself]
    obtain ⟨hread, hwait⟩ := ht _ hr
    simp only [hread, hwait, close_eq]
    cases thread with
    | serving =>
      have hnone : server.stopFailure? timeout = none := by simp [stopFailure?, hr]
      rw [hnone]
      exact ⟨_, rfl, (World.SameState.refl _).emit _ _ _⟩
    | finished =>
      have hnone : server.stopFailure? timeout = none := by simp [stopFailure?, hr]
      rw [hnone]
      exact ⟨_, rfl, (World.SameState.refl _).emit _ _ _⟩
    | hanging =>
      have hsome : server.stopFailure? timeout =
          some (.teardown (.unfinished server.name port timeout) []) := by simp [stopFailure?, hr]
      rw [hsome]
      exact ⟨_, rfl, .refl _⟩
    | crashed cause =>
      have hsome : server.stopFailure? timeout =
          some (.teardown (.crashed server.name port) [cause]) := by simp [stopFailure?, hr]
      rw [hsome]
      exact ⟨_, rfl, .refl _⟩

lemma stop_of_timeoutFault {server : BackgroundServer} {world : World} {failure : Failure}
    (h : server.timeoutFault? world = some failure) :
    server.stop world = ⟨.error failure, server, world⟩ := by
  unfold timeoutFault? at h
  unfold stop
  split at h
  · cases h
  · next running hr ht =>
    obtain rfl := Option.some.inj h
    simp only [hr, ht]
  · next running timeout hr ht => simp only [hr, ht, h]

lemma stop_cases (server : BackgroundServer) (world : World) :
    (∃ failure, server.stop world = ⟨.error failure, server, world⟩) ∨
    ∃ timeout world', server.stop world =
        ⟨answer (server.stopFailure? timeout), server.stopped, world'⟩ ∧
      (world.releaseAll server.heldPorts).SameState world' := by
  cases hf : server.timeoutFault? world with
  | some failure => exact Or.inl ⟨failure, stop_of_timeoutFault hf⟩
  | none =>
    obtain ⟨timeout, ht⟩ := exists_awaits hf
    exact Or.inr ⟨timeout, stop_eq ht⟩

lemma exists_of_stopFailure? {server : BackgroundServer} {timeout : Number.Binary64}
    {failure : Failure} (h : server.stopFailure? timeout = some failure) :
    ∃ fault causes, failure = .teardown fault causes := by
  unfold stopFailure? at h
  split at h
  · exact ⟨_, _, (Option.some.inj h).symm⟩
  · exact ⟨_, _, (Option.some.inj h).symm⟩
  · cases h

end BackgroundServer

namespace MockServer

lemma stop_eq {mock : MockServer} {world : World} {timeout : Number.Binary64}
    (ht : mock.server.Awaits world timeout) :
    ∃ world', mock.stop world = ⟨BackgroundServer.answer (mock.server.stopFailure? timeout),
        { mock with server := mock.server.stopped }, world'⟩ ∧
      (world.releaseAll mock.server.heldPorts).SameState world' := by
  obtain ⟨world', hs, hw⟩ := BackgroundServer.stop_eq ht
  unfold stop
  rw [hs]
  cases mock.server.stopFailure? timeout with
  | none => exact ⟨_, rfl, hw.emit _ _ _⟩
  | some failure => exact ⟨_, rfl, hw⟩

lemma stop_cases (mock : MockServer) (world : World) :
    (∃ failure, mock.stop world = ⟨.error failure, mock, world⟩) ∨
    ∃ timeout world', mock.stop world =
        ⟨BackgroundServer.answer (mock.server.stopFailure? timeout),
          { mock with server := mock.server.stopped }, world'⟩ ∧
      (world.releaseAll mock.server.heldPorts).SameState world' := by
  unfold stop
  rcases BackgroundServer.stop_cases mock.server world with ⟨failure, hs⟩ |
    ⟨timeout, world', hs, hw⟩
  · rw [hs]
    exact Or.inl ⟨failure, rfl⟩
  · rw [hs]
    refine Or.inr ⟨timeout, ?_⟩
    cases mock.server.stopFailure? timeout with
    | none => exact ⟨_, rfl, hw.emit _ _ _⟩
    | some failure => exact ⟨_, rfl, hw⟩

end MockServer

namespace AppHost

/-- The ports that a host holds. -/
def heldPorts (host : AppHost) : List ℕ :=
  match host.server with
  | some server => server.heldPorts
  | none => []

/-- Whether a module is a given entry module or came from a given working area. -/
def isLoadedBy (entry : Option ℕ) (area : Option Location) (module : LoadedModule) : Bool :=
  entry.any (fun number => module.name = .entry number) || area.any (module.isBelow ·)

/-- Whether a module is the host's entry module or came from its working area. -/
def isLoaded (host : AppHost) (module : LoadedModule) : Bool :=
  isLoadedBy host.entry host.workingArea module

/-- The files after a stop: the working area is gone unless it cannot be removed. -/
def clearedFiles (host : AppHost) (world : World) : FileSystem :=
  match host.workingArea with
  | none => world.files
  | some area => filesWithout world area

/-- The world without what the host has in it. -/
def cleared (host : AppHost) (world : World) : World :=
  { world.releaseAll host.heldPorts with
    modules := world.modules.filter (!host.isLoaded ·)
    files := host.clearedFiles world }

/-- What fails where a host is stopped, in the order of the steps. -/
def stopFailures (host : AppHost) (world : World) (timeout : Number.Binary64) : List Failure :=
  (host.server.bind (·.stopFailure? timeout)).toList ++
    ((host.workingArea.bind (removalFault? world)).map .refusedBySystem).toList

/-- The host after a stop. -/
def stopped (host : AppHost) : AppHost :=
  { host with server := host.server.map (·.stopped), entry := none, workingArea := none }

/-- The answer of a stop with some failures. -/
def answer : List Failure → Except Failure Unit
  | [] => .ok ()
  | failures => .error (.teardown .applicationServer failures)

/-- The thread of a host can be waited for that long, if there is one. -/
def Awaits (host : AppHost) (world : World) (timeout : Number.Binary64) : Prop :=
  ∀ server, host.server = some server → server.Awaits world timeout

lemma awaits_of_isAccepted (host : AppHost) {world : World} {timeout : Number.Binary64}
    (ht : world.environment.readShutdownTimeout = .ok timeout) (ha : timeout.IsAccepted) :
    host.Awaits world timeout :=
  fun server _ => server.awaits_of_isAccepted ht ha

lemma exists_awaits {host : AppHost} {world : World}
    (h : host.server.bind (·.timeoutFault? world) = none) :
    ∃ timeout, host.Awaits world timeout := by
  cases hserver : host.server with
  | none => exact ⟨.zero false, fun server hs => by cases hserver.symm.trans hs⟩
  | some server =>
    rw [hserver, Option.bind_some] at h
    obtain ⟨timeout, ht⟩ := BackgroundServer.exists_awaits h
    refine ⟨timeout, fun other hs => ?_⟩
    obtain rfl := Option.some.inj (hserver.symm.trans hs)
    exact ht

lemma stopServer_eq {host : AppHost} {world : World} {timeout : Number.Binary64}
    (ht : host.Awaits world timeout) :
    ∃ world', host.stopServer world = ⟨.ok (host.server.bind (·.stopFailure? timeout)).toList,
        { host with server := host.server.map (·.stopped) }, world'⟩ ∧
      (world.releaseAll host.heldPorts).SameState world' := by
  unfold stopServer
  cases hserver : host.server with
  | none =>
    have hself : { host with server := none } = host := by
      cases host
      simp_all
    have hports : host.heldPorts = [] := by simp [heldPorts, hserver]
    refine ⟨world, ?_, ?_⟩
    · simp [hself]
    · rw [hports, World.releaseAll_nil]
      exact .refl world
  | some server =>
    have hports : host.heldPorts = server.heldPorts := by simp [heldPorts, hserver]
    obtain ⟨world', hs, hw⟩ := BackgroundServer.stop_eq (ht server hserver)
    simp only [hs, hports, Option.bind_some, Option.map_some]
    cases hf : server.stopFailure? timeout with
    | none => exact ⟨_, rfl, hw⟩
    | some failure =>
      obtain ⟨fault, causes, rfl⟩ := BackgroundServer.exists_of_stopFailure? hf
      exact ⟨_, rfl, hw.emit _ _ _⟩

lemma foldl_emit (modules : ModuleTable) (world : World) :
    world.SameState (modules.foldl (fun world module =>
      world.emit .debug "application_module_unloaded"
        [("module", .string (moduleText module.name))]) world) := by
  induction modules generalizing world with
  | nil => exact .refl world
  | cons module rest ih => exact ((World.SameState.refl world).emit _ _ _).trans (ih _)

lemma unloadModules_eq (host : AppHost) (area : Option Location) (world : World) :
    ∃ world', host.unloadModules area world = ({ host with entry := none }, world') ∧
      World.SameState
        { world with modules := world.modules.filter (!isLoadedBy host.entry area ·) } world' := by
  have hentry : forgetEntry world.modules host.entry =
      world.modules.filter (!isLoadedBy host.entry none ·) := by
    cases host.entry with
    | none => simp [isLoadedBy, forgetEntry]
    | some number => simp [isLoadedBy, forgetEntry, ModuleTable.unregister]
  unfold unloadModules
  rw [hentry]
  cases area with
  | none => exact ⟨_, rfl, .refl _⟩
  | some area =>
    have hboth : ModuleTable.dropBelow (world.modules.filter (!isLoadedBy host.entry none ·)) area =
        world.modules.filter (!isLoadedBy host.entry (some area) ·) := by
      unfold ModuleTable.dropBelow
      rw [List.filter_filter]
      refine List.filter_congr fun module _ => ?_
      simp [isLoadedBy, Bool.and_comm]
    refine ⟨_, rfl, ?_⟩
    rw [← hboth]
    exact foldl_emit _ _

lemma removeArea_eq (host : AppHost) (world : World) :
    ∃ world', host.removeArea world =
        (((host.workingArea.bind (removalFault? world)).map .refusedBySystem).toList,
          { host with workingArea := none }, world') ∧
      World.SameState { world with files := host.clearedFiles world } world' := by
  unfold removeArea clearedFiles
  cases harea : host.workingArea with
  | none =>
    have hself : { host with workingArea := none } = host := by
      cases host
      simp_all
    exact ⟨world, by simp [hself], .refl world⟩
  | some area =>
    simp only [Option.bind_some]
    cases hfault : removalFault? world area with
    | none =>
      rw [filesWithout_of_none hfault]
      exact ⟨_, rfl, .refl _⟩
    | some fault =>
      rw [filesWithout_of_some hfault]
      exact ⟨_, rfl, (World.SameState.refl world).emit _ _ _⟩

lemma removalFault?_congr {first second : World} (hf : first.files = second.files)
    (hb : first.busyAreas = second.busyAreas) : removalFault? first = removalFault? second := by
  funext area
  simp only [removalFault?, hf, hb]

/-- A stop takes out of the world what the host has in it, and reports what failed. -/
theorem stop_eq {host : AppHost} {world : World} {timeout : Number.Binary64}
    (ht : host.Awaits world timeout) :
    ∃ world', host.stop world =
        ⟨answer (host.stopFailures world timeout), host.stopped, world'⟩ ∧
      (host.cleared world).SameState world' := by
  obtain ⟨first, hserver, log, rfl⟩ := stopServer_eq ht
  set released : World := { world.releaseAll host.heldPorts with log := log } with hreleased
  obtain ⟨second, hunload, log', rfl⟩ := unloadModules_eq
    { host with server := host.server.map (·.stopped) } host.workingArea released
  set unloaded : World := { released with
    modules := released.modules.filter (!isLoadedBy host.entry host.workingArea ·), log := log' }
    with hunloaded
  obtain ⟨third, hremove, hw⟩ := removeArea_eq
    { host with server := host.server.map (·.stopped), entry := none } unloaded
  have hfault : removalFault? unloaded = removalFault? world := removalFault?_congr rfl rfl
  have hcleared : (host.cleared world).SameState third := by
    refine World.SameState.trans ⟨log', ?_⟩ hw
    simp only [clearedFiles, filesWithout, hfault]
    rfl
  unfold stop
  rw [hserver]
  simp only [hunload, hremove, hfault]
  have hfailures : (host.server.bind (·.stopFailure? timeout)).toList ++
      ((host.workingArea.bind (removalFault? world)).map .refusedBySystem).toList =
        host.stopFailures world timeout := rfl
  rw [hfailures]
  cases host.stopFailures world timeout with
  | nil => exact ⟨_, rfl, hcleared.emit _ _ _⟩
  | cons failure rest => exact ⟨_, rfl, hcleared⟩

lemma stopServer_of_timeoutFault {host : AppHost} {world : World} {failure : Failure}
    (h : host.server.bind (·.timeoutFault? world) = some failure) :
    host.stopServer world = ⟨.error failure, host, world⟩ := by
  obtain ⟨server, hserver, hfault⟩ := Option.bind_eq_some_iff.1 h
  have hstop := BackgroundServer.stop_of_timeoutFault hfault
  have hself : { host with server := some server } = host := by
    cases host
    simp_all
  unfold stopServer
  simp only [hserver, hstop]
  cases BackgroundServer.isTimeoutFault_of_timeoutFault? hfault <;> simp only [hself]

lemma stop_of_timeoutFault {host : AppHost} {world : World} {failure : Failure}
    (h : host.server.bind (·.timeoutFault? world) = some failure) :
    host.stop world = ⟨.error failure, host, world⟩ := by
  unfold stop
  rw [stopServer_of_timeoutFault h]

lemma stop_cases (host : AppHost) (world : World) :
    (∃ failure, BackgroundServer.IsTimeoutFault failure ∧
      host.stop world = ⟨.error failure, host, world⟩) ∨
    ∃ timeout world', host.stop world =
        ⟨answer (host.stopFailures world timeout), host.stopped, world'⟩ ∧
      (host.cleared world).SameState world' := by
  cases hf : host.server.bind (·.timeoutFault? world) with
  | some failure =>
    obtain ⟨server, -, hfault⟩ := Option.bind_eq_some_iff.1 hf
    exact Or.inl ⟨failure, BackgroundServer.isTimeoutFault_of_timeoutFault? hfault,
      stop_of_timeoutFault hf⟩
  | none =>
    obtain ⟨timeout, ht⟩ := exists_awaits hf
    exact Or.inr ⟨timeout, stop_eq ht⟩

end AppHost

namespace Harness

lemma stopMock_self (harness : Harness) (world : World) :
    (harness.stopMock world).2.1 = { harness with mockServer := none } := by
  unfold stopMock
  cases hm : harness.mockServer with
  | none =>
    cases harness
    simp_all
  | some mock =>
    simp only
    split <;> rfl

lemma stopApp_self (harness : Harness) (world : World) :
    (harness.stopApp world).2.1 = { harness with appHost := none } := by
  unfold stopApp
  cases hh : harness.appHost with
  | none =>
    cases harness
    simp_all
  | some host =>
    simp only
    split <;> rfl

/-- The harness after both steps of a teardown. -/
def tornDown (harness : Harness) (phase : Phase) : Harness :=
  { harness with phase := phase, mockServer := none, appHost := none, binding := none }

lemma stopAll_self (harness : Harness) (world : World) :
    ((harness.stopAll world).result = .ok () ∧
      (harness.stopAll world).self = harness.tornDown .stopped) ∨
    ((harness.stopAll world).result.isOk = false ∧
      (harness.stopAll world).self = harness.tornDown .failed) := by
  have hself : ((harness.stopMock world).2.1.stopApp (harness.stopMock world).2.2).2.1 =
      { harness with mockServer := none, appHost := none } := by
    rw [stopApp_self, stopMock_self]
  unfold stopAll
  simp only [hself]
  split
  · exact Or.inl ⟨rfl, rfl⟩
  · exact Or.inr ⟨rfl, rfl⟩

/-- A teardown has nothing to do, only notes that nothing is left, or lets go of everything. -/
lemma teardown_cases (harness : Harness) (world : World) :
    ((harness.phase = .notStarted ∨ harness.phase = .stopped) ∧
      harness.teardown world = ⟨.ok (), harness, world⟩) ∨
    (harness.phase = .failed ∧ harness.mockServer = none ∧ harness.appHost = none ∧
      harness.teardown world = ⟨.ok (), { harness with phase := .stopped }, world⟩) ∨
    harness.phase ≠ .notStarted ∧ harness.phase ≠ .stopped ∧
      harness.teardown world = { harness with phase := .stopping }.stopAll world := by
  unfold teardown
  by_cases hidle : harness.phase = .notStarted ∨ harness.phase = .stopped
  · rw [if_pos hidle]
    exact Or.inl ⟨hidle, rfl⟩
  rw [if_neg hidle]
  obtain ⟨hnew, hold⟩ := not_or.1 hidle
  cases hspent : harness.isSpent with
  | true =>
    simp only [isSpent, Bool.and_eq_true, Option.isNone_iff_eq_none, decide_eq_true_eq] at hspent
    exact Or.inr (Or.inl ⟨hspent.2, hspent.1.1, hspent.1.2, rfl⟩)
  | false => exact Or.inr (Or.inr ⟨hnew, hold, rfl⟩)

/-- The ports that a harness holds through its mock server. -/
def mockPorts (harness : Harness) : List ℕ :=
  (harness.mockServer.map (·.server.heldPorts)).getD []

/-- The ports that a harness holds through its host and its mock server. -/
def heldPorts (harness : Harness) : List ℕ :=
  (harness.appHost.map (·.heldPorts)).getD [] ++ harness.mockPorts

/-- The world without what the host of a harness has in it. -/
def clearedOfApp (harness : Harness) (world : World) : World :=
  match harness.appHost with
  | some host => host.cleared world
  | none => world

/-- The world without what a harness has in it. -/
def cleared (harness : Harness) (world : World) : World :=
  harness.clearedOfApp (world.releaseAll harness.mockPorts)

/-- What the step for the host reports. -/
def appFailures (harness : Harness) (world : World) (timeout : Number.Binary64) : List Failure :=
  match (harness.appHost.map (·.stopFailures world timeout)).getD [] with
  | [] => []
  | failures => [.teardown .applicationServer failures]

/-- What fails where a harness is torn down: its mock server first, then its host. -/
def stopFailures (harness : Harness) (world : World) (timeout : Number.Binary64) : List Failure :=
  (harness.mockServer.bind (·.server.stopFailure? timeout)).toList ++
    harness.appFailures world timeout

/-- The answer of a teardown with some failures. -/
def answer : List Failure → Except Failure Unit
  | [] => .ok ()
  | failures => .error (.teardown .harness failures)

lemma stopMock_eq (harness : Harness) {world : World} {timeout : Number.Binary64}
    (ht : world.environment.readShutdownTimeout = .ok timeout) (ha : timeout.IsAccepted) :
    ∃ world', harness.stopMock world =
        ((harness.mockServer.bind (·.server.stopFailure? timeout)).toList,
          { harness with mockServer := none }, world') ∧
      (world.releaseAll harness.mockPorts).SameState world' := by
  unfold stopMock mockPorts
  cases hm : harness.mockServer with
  | none =>
    have hself : { harness with mockServer := none } = harness := by
      cases harness
      simp_all
    refine ⟨world, by simp [hself], ?_⟩
    rw [Option.map_none, Option.getD_none, World.releaseAll_nil]
    exact .refl world
  | some mock =>
    obtain ⟨world', hs, hw⟩ := mock.stop_eq (mock.server.awaits_of_isAccepted ht ha)
    simp only [hs, Option.map_some, Option.bind_some]
    cases mock.server.stopFailure? timeout with
    | none => exact ⟨world', rfl, hw⟩
    | some failure => exact ⟨_, rfl, hw.emit _ _ _⟩

lemma stopApp_eq (harness : Harness) {world : World} {timeout : Number.Binary64}
    (ht : world.environment.readShutdownTimeout = .ok timeout) (ha : timeout.IsAccepted) :
    ∃ world', harness.stopApp world =
        (harness.appFailures world timeout, { harness with appHost := none }, world') ∧
      (harness.clearedOfApp world).SameState world' := by
  unfold stopApp appFailures clearedOfApp
  cases hh : harness.appHost with
  | none =>
    have hself : { harness with appHost := none } = harness := by
      cases harness
      simp_all
    exact ⟨world, by simp [hself], .refl _⟩
  | some host =>
    obtain ⟨world', hs, hw⟩ := AppHost.stop_eq (host.awaits_of_isAccepted ht ha)
    simp only [hs, Option.map_some, Option.getD_some]
    cases host.stopFailures world timeout with
    | nil => exact ⟨world', rfl, hw⟩
    | cons failure rest => exact ⟨_, rfl, hw.emit _ _ _⟩

/-- What the first step logs makes no difference to the second. -/
lemma cleared_sameState (harness : Harness) {world released : World}
    (h : (world.releaseAll harness.mockPorts).SameState released) :
    (harness.cleared world).SameState (harness.clearedOfApp released) := by
  obtain ⟨log, rfl⟩ := h
  unfold cleared clearedOfApp
  cases harness.appHost with
  | none => exact ⟨log, rfl⟩
  | some host => exact ⟨log, rfl⟩

/-- Both steps of a teardown take out of the world what the harness has in it, and report what
failed. -/
theorem stopAll_eq (harness : Harness) {world : World} {timeout : Number.Binary64}
    (ht : world.environment.readShutdownTimeout = .ok timeout) (ha : timeout.IsAccepted) :
    ∃ world', harness.stopAll world = ⟨answer (harness.stopFailures world timeout),
        harness.tornDown (if harness.stopFailures world timeout = [] then .stopped else .failed),
        world'⟩ ∧
      (harness.cleared world).SameState world' := by
  obtain ⟨first, hmock, hreleased⟩ := stopMock_eq harness ht ha
  have hcleared := harness.cleared_sameState hreleased
  obtain ⟨log, rfl⟩ := hreleased
  set released : World := { world.releaseAll harness.mockPorts with log := log }
  have htime : released.environment.readShutdownTimeout = .ok timeout := ht
  obtain ⟨second, happ, hw⟩ := stopApp_eq { harness with mockServer := none } htime ha
  have hfailures : appFailures { harness with mockServer := none } released timeout =
      harness.appFailures world timeout := by
    have hfault : AppHost.removalFault? released = AppHost.removalFault? world :=
      AppHost.removalFault?_congr rfl rfl
    unfold appFailures AppHost.stopFailures
    rw [hfault]
  replace hcleared := hcleared.trans hw
  unfold stopAll
  rw [hmock]
  simp only [happ, hfailures]
  have hall : (harness.mockServer.bind (·.server.stopFailure? timeout)).toList ++
      harness.appFailures world timeout = harness.stopFailures world timeout := rfl
  rw [hall]
  cases harness.stopFailures world timeout with
  | nil => exact ⟨_, rfl, hcleared.emit _ _ _⟩
  | cons failure rest => exact ⟨_, rfl, hcleared⟩

lemma stopMock_of_nil {harness : Harness} {world : World} (h : (harness.stopMock world).1 = []) :
    (world.releaseAll harness.mockPorts).SameState (harness.stopMock world).2.2 := by
  unfold mockPorts
  unfold stopMock at h ⊢
  cases hm : harness.mockServer with
  | none =>
    rw [Option.map_none, Option.getD_none, World.releaseAll_nil]
    exact .refl world
  | some mock =>
    rw [hm] at h
    simp only [Option.map_some, Option.getD_some] at h ⊢
    rcases mock.stop_cases world with ⟨failure, hs⟩ | ⟨timeout, world', hs, hw⟩
    · rw [hs] at h
      cases h
    · rw [hs] at h ⊢
      cases hf : mock.server.stopFailure? timeout with
      | none => exact hw
      | some failure =>
        rw [hf] at h
        cases h

lemma stopApp_of_nil {harness : Harness} {world : World} (h : (harness.stopApp world).1 = []) :
    (harness.clearedOfApp world).SameState (harness.stopApp world).2.2 ∧
    ∀ host area, harness.appHost = some host → host.workingArea = some area →
      AppHost.removalFault? world area = none := by
  unfold clearedOfApp
  unfold stopApp at h ⊢
  cases hh : harness.appHost with
  | none => exact ⟨.refl world, fun host area ho => by cases ho⟩
  | some host =>
    rw [hh] at h
    simp only at h ⊢
    rcases host.stop_cases world with ⟨_, -, hs⟩ | ⟨timeout, world', hs, hw⟩
    · rw [hs] at h
      cases h
    · rw [hs] at h ⊢
      cases hf : host.stopFailures world timeout with
      | nil =>
        refine ⟨hw, fun other area ho ha => ?_⟩
        obtain rfl : host = other := Option.some.inj ho
        obtain ⟨-, hremoval⟩ := List.append_eq_nil_iff.1 hf
        simpa [ha] using hremoval
      | cons failure rest =>
        rw [hf] at h
        cases h

lemma stopAll_of_ok {harness : Harness} {world : World}
    (h : (harness.stopAll world).result = .ok ()) :
    (harness.stopAll world).self = harness.tornDown .stopped ∧
      (harness.cleared world).SameState (harness.stopAll world).world ∧
      ∀ host area, harness.appHost = some host → host.workingArea = some area →
        AppHost.removalFault? world area = none := by
  obtain hself | ⟨hfailed, -⟩ := stopAll_self harness world
  swap
  · rw [h] at hfailed
    cases hfailed
  refine ⟨hself.2, ?_⟩
  unfold stopAll at h ⊢
  simp only at h ⊢
  split at h
  · next hall =>
    obtain ⟨hmock, happ⟩ := List.append_eq_nil_iff.1 hall
    have hreleased := stopMock_of_nil hmock
    obtain ⟨hcleared, hremoved⟩ := stopApp_of_nil happ
    have hsame : (harness.stopMock world).2.1.clearedOfApp = harness.clearedOfApp := by
      rw [stopMock_self]
      rfl
    have happHost : (harness.stopMock world).2.1.appHost = harness.appHost := by
      rw [stopMock_self]
    rw [hsame] at hcleared
    rw [happHost] at hremoved
    refine ⟨?_, fun host area hh ha => ?_⟩
    · exact ((harness.cleared_sameState hreleased).trans hcleared).emit _ _ _
    · have hgone := hremoved host area hh ha
      obtain ⟨log, hw⟩ := hreleased
      rw [hw] at hgone
      exact hgone
  · cases h

/-- Entering sets up; after an ordinary failure it also tears down, and tells of the set-up only. -/
lemma enter_cases (harness : Harness) (world : World) :
    (harness.enter world = harness.setup world ∧
      ∀ failure, (harness.setup world).result = .error failure → failure.isOrdinary = false) ∨
    ∃ failure, (harness.setup world).result = .error failure ∧ failure.isOrdinary = true ∧
      (harness.enter world).result = .error failure ∧
      (harness.enter world).self =
        ((harness.setup world).self.teardown (harness.setup world).world).self ∧
      ((harness.setup world).self.teardown (harness.setup world).world).world.SameState
        (harness.enter world).world := by
  unfold enter
  rcases harness.setup world with ⟨failure | ⟨⟩, after, world'⟩
  · cases ho : failure.isOrdinary with
    | true =>
      refine Or.inr ⟨failure, rfl, ho, ?_⟩
      simp only [ho, if_true]
      rcases after.teardown world' with ⟨cleanup | ⟨⟩, left, world''⟩
      · exact ⟨rfl, rfl, (World.SameState.refl _).emit _ _ _⟩
      · exact ⟨rfl, rfl, .refl _⟩
    | false =>
      refine Or.inl ⟨by simp [ho], fun other hother => ?_⟩
      obtain rfl := Except.error.inj hother
      exact ho
  · exact Or.inl ⟨rfl, fun _ hother => by cases hother⟩

end Harness

end MockIssuer
