import MockIssuer.Proofs.Acts
import MockIssuer.Proofs.FrameRules

/-!
# What the stop of a host leaves

The stop of a host goes on with its second step where the thread of the server does not finish or
had crashed, and reports the failures of both steps together. It does not go on where the timeout
for the first step cannot be read or waited for: that is no failed teardown, so it ends the stop
before anything has been released (`stop_releases_or_fails`). A host that was started has a server
that was, so there is a thread to wait for and the timeout is always read.
-/
namespace MockIssuer

/-- Seconds that a thread can be waited for: a finite number, below the longest wait there is. -/
def Number.Binary64.IsWait (seconds : Number.Binary64) : Prop :=
  seconds.isFinite = true ∧ seconds.truncate < 9223372036

instance (seconds : Number.Binary64) : Decidable seconds.IsWait :=
  inferInstanceAs (Decidable (_ ∧ _))

lemma Number.Binary64.IsWait.isAccepted {seconds : Number.Binary64} (h : seconds.IsWait) :
    seconds.IsAccepted := by
  obtain ⟨hfinite, hlt⟩ := h
  refine ⟨by simp [isNaN, hfinite], ?_⟩
  cases hn : seconds.negative with
  | true => exact Or.inl rfl
  | false =>
    refine Or.inr ⟨hfinite, ?_⟩
    have hpos : 0 < seconds.ratio.2 := Nat.pow_pos Nat.two_pos
    have hquotient : seconds.ratio.1 / seconds.ratio.2 < 9223372036 := by
      simp only [truncate, hn, Bool.false_eq_true, if_false] at hlt
      exact_mod_cast hlt
    have hnum := (Nat.div_lt_iff_lt_mul hpos).1 hquotient
    omega

namespace AppHost
variable {host : AppHost} {world : World}

/-- One step of a host, in any world. -/
def Step (host after : AppHost) : Prop :=
  ∃ world world', Act host world after world'

/-- A host that steps lead to from a new one. -/
def Reachable (host : AppHost) : Prop :=
  ∃ entryModule appName address, Relation.ReflTransGen Step
    { entryModule := entryModule, appName := appName, host := address } host

/-- A host with a server has started it, and its working area is one that it made. -/
structure IsLaunched (host : AppHost) : Prop where
  running : ∀ server, host.server = some server → server.running.isSome = true
  area : ∀ area, host.workingArea = some area → ∃ number, area = areaOf number

lemma loadApp_self (host : AppHost) (copy : Location) (world : World) :
    ∃ entry, (host.loadApp copy world).self = { host with entry := entry } := by
  unfold loadApp
  simp only
  split
  · exact ⟨host.entry, rfl⟩
  · split
    · exact ⟨_, rfl⟩
    · split <;> exact ⟨_, rfl⟩

/-- A launch changes nothing of the host but its entry module; the server that it answers runs. -/
lemma launch_self (host : AppHost) (source area : Location) (port : ℤ) (world : World) :
    (∃ entry, (host.launch source area port world).self = { host with entry := entry }) ∧
    ∀ hosted server bound, (host.launch source area port world).result =
      .ok (hosted, server, bound) → server.running.isSome = true := by
  unfold launch
  split
  · exact ⟨⟨host.entry, rfl⟩, fun _ _ _ hok => by cases hok⟩
  simp only
  obtain ⟨entry, hself⟩ := host.loadApp_self (area ++ ["webapp"])
    { world with files := world.files.copyTree source (area ++ ["webapp"]) }
  rcases hl : host.loadApp (area ++ ["webapp"])
    { world with files := world.files.copyTree source (area ++ ["webapp"]) } with
    ⟨failure | hosted, loaded, after⟩
  · rw [hl] at hself
    exact ⟨⟨entry, hself⟩, fun _ _ _ hok => by cases hok⟩
  · rw [hl] at hself
    have hidle : (BackgroundServer.new after.environment serverName port loaded.host).running =
        none := rfl
    simp only
    rcases BackgroundServer.start_cases hidle after with ⟨failure, -, hstart⟩ |
      ⟨number, thread, bound, last, -, hstart, -⟩
    · rw [hstart]
      exact ⟨⟨entry, hself⟩, fun _ _ _ hok => by cases hok⟩
    · rw [hstart]
      refine ⟨⟨entry, hself⟩, fun _ _ _ hok => ?_⟩
      obtain ⟨-, rfl, -⟩ := Prod.mk.inj (Except.ok.inj hok) |>.imp_right Prod.mk.inj
      rfl

namespace IsLaunched

lemma startIn (h : host.IsLaunched) (source : Location) (text : String) (port : ℤ)
    (world : World) : (host.startIn source text port world).self.IsLaunched := by
  unfold AppHost.startIn
  rw [makeArea_eq]
  simp only
  obtain ⟨⟨entry, hself⟩, hruns⟩ := host.launch_self source (areaOf (world.areas + 1)) port
    (makeArea world).2
  rw [makeArea_eq] at hself hruns
  rcases hl : host.launch source (areaOf (world.areas + 1)) port { world with
      areas := world.areas + 1
      files := world.files.write (areaOf (world.areas + 1)) .directory } with
    ⟨failure | ⟨hosted, server, number⟩, made, launched⟩
  · rw [hl] at hself
    obtain rfl : made = { host with entry := entry } := hself
    simp only
    split
    · obtain ⟨_, hunload, -⟩ := unloadModules_eq { host with entry := entry }
        (some (areaOf (world.areas + 1))) launched
      rw [hunload]
      exact ⟨h.running, h.area⟩
    · exact ⟨h.running, h.area⟩
  · rw [hl] at hruns
    refine ⟨fun other hother => ?_, fun area harea => ⟨world.areas + 1, ?_⟩⟩
    · obtain rfl := Option.some.inj hother
      exact hruns _ _ _ rfl
    · exact (Option.some.inj harea).symm

lemma start (h : host.IsLaunched) (directory : Path) (port : ℤ) (world : World) :
    (host.start directory port world).self.IsLaunched := by
  rcases host.start_startIn directory port world with ⟨_, _, -, hstart, -⟩ |
    ⟨-, source, text, -, -, hstart⟩
  · rw [hstart]
    exact h
  · rw [hstart]
    exact h.startIn source text port world

lemma stop (h : host.IsLaunched) (world : World) : (host.stop world).self.IsLaunched := by
  rcases host.stop_cases world with ⟨_, -, hstop⟩ | ⟨_, _, hstop, -⟩
  · rw [hstop]
    exact h
  · rw [hstop]
    refine ⟨fun server hserver => ?_, fun area harea => by cases harea⟩
    obtain ⟨before, hbefore, rfl⟩ := Option.map_eq_some_iff.1 hserver
    unfold BackgroundServer.stopped
    rw [Option.isSome_map]
    exact h.running before hbefore

lemma act {left : AppHost} {world' : World} (h : host.IsLaunched)
    (ha : Act host world left world') : left.IsLaunched := by
  cases ha with
  | start directory port => exact h.start directory port world
  | stop => exact h.stop world
  | handle request => exact ⟨h.running, h.area⟩
  | drift _ server running thread _ _ =>
    refine ⟨fun other hother => ?_, h.area⟩
    obtain rfl := Option.some.inj hother
    rfl

end IsLaunched

/-- The invariant holds of every host that there can be. -/
theorem Reachable.isLaunched (h : host.Reachable) : host.IsLaunched := by
  obtain ⟨entryModule, appName, address, hsteps⟩ := h
  induction hsteps with
  | refl =>
    refine ⟨fun server hserver => ?_, fun area harea => ?_⟩
    · cases hserver
    · cases harea
  | tail _ hstep ih =>
    obtain ⟨_, _, ha⟩ := hstep
    exact ih.act ha

/-- What a stop takes out of a world: the ports, the modules and the working area of its host,
except for an area that could not be removed. -/
structure IsReleased (host : AppHost) (failures : List Failure) (before after : World) : Prop where
  ports : after.bound = before.bound.filter (· ∉ host.heldPorts)
  modules : after.modules = before.modules.filter (!host.isLoaded ·)
  area : ∀ area, host.workingArea = some area →
    (∀ location, area <+: location → after.files.at? location = none) ∨
    ∃ fault, after.files = before.files ∧ .refusedBySystem fault ∈ failures
  beside : ∀ location, (∀ area, host.workingArea = some area → ¬ area <+: location) →
    after.files.at? location = before.files.at? location

lemma clearedFiles_area {area : Location} (ha : host.workingArea = some area) (hne : area ≠ [])
    (world : World) (timeout : Number.Binary64) :
    (∀ location, area <+: location → (host.clearedFiles world).at? location = none) ∨
    ∃ fault, host.clearedFiles world = world.files ∧
      .refusedBySystem fault ∈ host.stopFailures world timeout := by
  cases hfault : removalFault? world area with
  | none =>
    refine Or.inl fun location hp => ?_
    have hlocation : location ≠ [] := by
      rintro rfl
      exact hne (List.prefix_nil.1 hp)
    have hremoved : host.clearedFiles world = world.files.removeTree area := by
      simp only [clearedFiles, ha, filesWithout_of_none hfault]
    rw [hremoved, FileSystem.at?_removeTree _ _ hlocation, List.isPrefixOf_iff_prefix.2 hp,
      if_pos rfl]
  | some fault =>
    refine Or.inr ⟨fault, ?_, ?_⟩
    · simp only [clearedFiles, ha, filesWithout_of_some hfault]
    · simp [stopFailures, ha, hfault]

lemma clearedFiles_beside {location : Location}
    (hb : ∀ area, host.workingArea = some area → ¬ area <+: location) (world : World) :
    (host.clearedFiles world).at? location = world.files.at? location := by
  unfold clearedFiles
  split
  · rfl
  · next area ha =>
    unfold filesWithout
    split
    · rfl
    · exact FileSystem.at?_removeTree_beside world.files (hb area ha)

lemma isReleased_cleared (ha : ∀ area, host.workingArea = some area → area ≠ []) (world : World)
    (timeout : Number.Binary64) :
    host.IsReleased (host.stopFailures world timeout) world (host.cleared world) :=
  ⟨rfl, rfl, fun area harea => clearedFiles_area harea (ha area harea) world timeout,
    fun _ hb => clearedFiles_beside hb world⟩

/-- A stop of a host that was started, in any world and whatever its thread does. Where the timeout
is read and can be waited for, both steps are done: the host holds no port, its modules are
forgotten and its working area is gone, unless removing it was what failed, and the failures of both
steps are reported together, the one of the server first. Where the timeout cannot be read, or the
thread refuses to be waited for that long, nothing is done at all, and the failure is no failed
teardown. -/
theorem stop_releases_or_fails (h : host.Reachable) (hserver : host.server.isSome = true)
    (world : World) :
    (∀ timeout, world.environment.readShutdownTimeout = .ok timeout → timeout.IsWait →
      ∃ result left after, host.stop world = ⟨result, left, after⟩ ∧
        left.heldPorts = [] ∧ left.entry = none ∧ left.workingArea = none ∧
        host.IsReleased (host.stopFailures world timeout) world after ∧
        (host.stopFailures world timeout = [] → result = .ok ()) ∧
        (host.stopFailures world timeout ≠ [] →
          result = .error (.teardown .applicationServer (host.stopFailures world timeout)))) ∧
    (∀ failure, world.environment.readShutdownTimeout = .error failure →
      failure.family = "ValueError" ∧ host.stop world = ⟨.error failure, host, world⟩) ∧
    ∀ failure, host.server.bind (·.timeoutFault? world) = some failure →
      (failure.family = "ValueError" ∨ failure.family = "OverflowError") ∧
        host.stop world = ⟨.error failure, host, world⟩ := by
  have hlaunched := h.isLaunched
  obtain ⟨server, hserver⟩ := Option.isSome_iff_exists.1 hserver
  refine ⟨?_, ?_, fun failure hfault => ⟨?_, stop_of_timeoutFault hfault⟩⟩
  · intro timeout ht hwait
    obtain ⟨after, hstop, log, rfl⟩ := stop_eq (host.awaits_of_isAccepted ht hwait.isAccepted)
    have hne (area : Location) (harea : host.workingArea = some area) : area ≠ [] := by
      obtain ⟨number, rfl⟩ := hlaunched.area area harea
      exact List.cons_ne_nil _ _
    obtain ⟨hports, hmodules, harea, hbeside⟩ := host.isReleased_cleared hne world timeout
    refine ⟨_, _, _, hstop, host.stopped_heldPorts, rfl, rfl,
      ⟨hports, hmodules, harea, hbeside⟩, fun hnone => ?_, fun hsome => ?_⟩
    · rw [hnone]
      rfl
    · unfold answer
      split
      · next hnone => exact absurd hnone hsome
      · rfl
  · intro failure ht
    -- The server was started, so its stop reads the timeout before it does anything.
    obtain ⟨running, hrunning⟩ := Option.isSome_iff_exists.1 (hlaunched.running server hserver)
    have hfault : host.server.bind (·.timeoutFault? world) = some failure := by
      simp only [hserver, Option.bind_some, BackgroundServer.timeoutFault?, hrunning, ht]
    obtain ⟨text, rfl⟩ := Environment.readShutdownTimeout_error ht
    exact ⟨rfl, stop_of_timeoutFault hfault⟩
  · rw [hserver, Option.bind_some] at hfault
    cases BackgroundServer.isTimeoutFault_of_timeoutFault? hfault with
    | unread => exact Or.inl rfl
    | notATime => exact Or.inl rfl
    | tooLong => exact Or.inr rfl

/-- A world with a web application and a text for the timeout. -/
def serving (timeout : String) : World where
  environment := { shutdownTimeout := some timeout }
  files := [
    (["cwd"], .directory),
    (["cwd", "web"], .directory),
    (["cwd", "web", "app.py"], .module ⟨[], .defines [("app", .application "ok")]⟩)]

/-- The same world, where the server never finishes and the first working area is in use. -/
def stuckServing : World :=
  { serving "5" with
    behaviours := [(serverName, .hangs)]
    busyAreas := [(areaOf 1, .permissionDenied)] }

/-- What fails in both steps is reported, and the port and the modules are given back. -/
theorem hanging_stop_reported :
    let host : AppHost := { entryModule := "app", appName := "app", host := none }
    let started := host.start ⟨0, ["web"]⟩ 8181 stuckServing
    let failures : List Failure :=
      [.teardown (.unfinished serverName 8181 (.ofInt 5)) [], .refusedBySystem .permissionDenied]
    ∃ left after, started.self.stop started.world =
        ⟨.error (.teardown .applicationServer failures), left, after⟩ ∧
      left.heldPorts = [] ∧ left.workingArea = none ∧ after.bound = [] ∧ after.modules = [] := by
  intro host started failures
  have hreachable : started.self.Reachable :=
    ⟨_, _, _, .single ⟨_, _, .start host ⟨0, ["web"]⟩ 8181 stuckServing⟩⟩
  have hserver : started.self.server.isSome = true := by
    subst started host
    rfl
  have henvironment : started.world.environment = { shutdownTimeout := some "5" } := by
    subst started host
    rfl
  have hseconds : Number.readReal? "5".toList = some (.ofInt 5) := by decide +kernel
  have htimeout : started.world.environment.readShutdownTimeout = .ok (.ofInt 5) := by
    rw [henvironment]
    simp only [Environment.readShutdownTimeout, hseconds]
  have hfailures : started.self.stopFailures started.world (.ofInt 5) = failures := by
    subst failures started host
    rfl
  have hbound : started.world.bound.filter (· ∉ started.self.heldPorts) = [] := by
    subst started host
    rfl
  have hmodules : started.world.modules.filter (!started.self.isLoaded ·) = [] := by
    subst started host
    rfl
  obtain ⟨hread, -⟩ := stop_releases_or_fails hreachable hserver started.world
  obtain ⟨result, left, after, hstop, hports, -, harea, hreleased, -, hfailed⟩ :=
    hread (.ofInt 5) htimeout (by decide +kernel)
  rw [hfailures] at hfailed
  refine ⟨left, after, ?_, hports, harea, hreleased.ports.trans hbound,
    hreleased.modules.trans hmodules⟩
  rw [hstop, hfailed (List.cons_ne_nil _ _)]

/-- Where the timeout is no number, the port, the modules and the working area stay, and no failed
teardown is reported. -/
theorem unread_timeout_keeps_all :
    let host : AppHost := { entryModule := "app", appName := "app", host := none }
    let started := host.start ⟨0, ["web"]⟩ 8181 (serving "soon")
    let outcome := started.self.stop started.world
    started.result = .ok (localUrl 8181) ∧
    outcome.result = .error (.wrongValue (.realText "soon")) ∧
    outcome.world.bound = [8181] ∧
    outcome.world.modules.map (·.name) = [.entry 1] ∧
    outcome.self.workingArea = some (areaOf 1) ∧
    outcome.world.files.topDirectories areaStart = ["security-harness-1"] :=
  ⟨by rfl, by rfl, by rfl, by rfl, by rfl, by decide +kernel⟩

end AppHost

end MockIssuer
