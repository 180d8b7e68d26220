import MockIssuer.Proofs.Fleet
import MockIssuer.Proofs.HostStop

/-!
# Teardowns are complete and exact

A teardown in a fleet releases what its harness held and nothing that anyone else holds, however its
two steps go: each server may have finished, hang or have crashed, and the working area may be
removed or not (`teardown_complete`). What failed is reported in the order of the steps, and the
next teardown has nothing left to do.

Modules are told by their files. A package of directories alone has none, so it stays registered
although its directories are gone (`package_outlives_teardown`).
-/
namespace MockIssuer

namespace Harness
variable {harness : Harness} {world : World}

/-- Whether a module belongs to the host of a harness. -/
def loads (harness : Harness) (module : LoadedModule) : Bool :=
  harness.appHost.any (·.isLoaded module)

/-- The working area of the host of a harness. -/
def workingArea? (harness : Harness) : Option Location :=
  harness.appHost.bind (·.workingArea)

lemma holdings_ports (harness : Harness) : harness.holdings.ports = harness.heldPorts := by
  unfold holdings heldPorts mockPorts appHoldings mockHoldings
  cases harness.appHost <;> cases harness.mockServer <;> rfl

lemma holdings_footprints (harness : Harness) :
    harness.holdings.footprints = (harness.appHost.map (·.footprint)).toList := by
  unfold holdings appHoldings mockHoldings
  cases harness.appHost <;> cases harness.mockServer <;> rfl

lemma footprint_mem {host : AppHost} (hh : harness.appHost = some host) :
    host.footprint ∈ harness.holdings.footprints := by
  rw [holdings_footprints, hh]
  exact List.mem_singleton_self _

/-- What a teardown takes out of a world: the ports, the modules and the working area of its
harness, except for an area that could not be removed. Of the modules from the working area those
without a file stay, and no others. -/
structure IsReleased (harness : Harness) (timeout : Number.Binary64) (before after : World) :
    Prop where
  ports : after.bound = before.bound.filter (· ∉ harness.heldPorts)
  modules : after.modules = before.modules.filter (!harness.loads ·)
  fromArea : ∀ area, harness.workingArea? = some area → ∀ module ∈ after.modules,
    module.isFrom area = true → module.file = none
  packages : ∀ module ∈ before.modules, (∃ text, module.name = .named text) →
    module.file = none → module ∈ after.modules
  area : ∀ area, harness.workingArea? = some area →
    (∀ location, area <+: location → after.files.at? location = none) ∨
    ∃ host fault, harness.appHost = some host ∧ after.files = before.files ∧
      .refusedBySystem fault ∈ host.stopFailures before timeout
  beside : ∀ location, (∀ area, harness.workingArea? = some area → ¬ area <+: location) →
    after.files.at? location = before.files.at? location

/-- How a teardown with some failures ends: the harness owns nothing, it has stopped if nothing failed,
and otherwise what failed is reported, the mock server before the host. The next teardown does not
fail, wherever it is done. -/
structure HasTornDown (failures : List Failure) (result : Except Failure Unit) (left : Harness) :
    Prop where
  mockServer : left.mockServer = none
  appHost : left.appHost = none
  binding : left.binding = none
  stopped : failures = [] → result = .ok () ∧ left.phase = .stopped
  failed : failures ≠ [] →
    left.phase = .failed ∧ result = .error (.teardown .harness failures)
  again : ∀ world, (left.teardown world).result = .ok () ∧
    (left.teardown world).self.phase = .stopped

lemma hasTornDown (harness : Harness) (failures : List Failure) :
    HasTornDown failures (answer failures)
      (harness.tornDown (if failures = [] then .stopped else .failed)) := by
  refine ⟨rfl, rfl, rfl, fun hnone => ?_, fun hsome => ?_, fun world => ?_⟩
  · rw [hnone, if_pos rfl]
    exact ⟨rfl, rfl⟩
  · rw [if_neg hsome]
    refine ⟨rfl, ?_⟩
    cases failures with
    | nil => exact absurd rfl hsome
    | cons first rest => rfl
  · by_cases hnone : failures = []
    · rw [if_pos hnone]
      exact ⟨rfl, rfl⟩
    · rw [if_neg hnone]
      exact ⟨rfl, rfl⟩

lemma cleared_eq_self (hm : harness.mockServer = none) (hh : harness.appHost = none) :
    harness.cleared world = world := by
  unfold cleared clearedOfApp mockPorts
  rw [hm, hh]
  exact World.releaseAll_nil world

/-- A teardown of a harness that is not idle takes out of the world what the harness has in it, and
reports what failed. -/
lemma teardown_eq (hc : harness.Consistent) (hnew : harness.phase ≠ .notStarted)
    (hold : harness.phase ≠ .stopped) {timeout : Number.Binary64}
    (ht : world.environment.readShutdownTimeout = .ok timeout) (ha : timeout.IsAccepted) :
    ∃ after, harness.teardown world = ⟨answer (harness.stopFailures world timeout),
        harness.tornDown (if harness.stopFailures world timeout = [] then .stopped else .failed),
        after⟩ ∧
      (harness.cleared world).SameState after := by
  rcases teardown_cases harness world with ⟨hidle, -⟩ | ⟨hp, hm, hh, htear⟩ | ⟨-, -, htear⟩
  · exact absurd hidle (not_or.2 ⟨hnew, hold⟩)
  · have hb : harness.binding = none := hc.binding_eq_none (by rw [hp]; decide)
    have hfailures : harness.stopFailures world timeout = [] := by
      unfold stopFailures appFailures
      rw [hm, hh]
      rfl
    have hself : { harness with phase := .stopped } = harness.tornDown .stopped := by
      cases harness
      simp_all [tornDown]
    rw [hfailures, if_pos rfl, cleared_eq_self hm hh, htear, hself]
    exact ⟨world, rfl, .refl world⟩
  · rw [htear]
    exact stopAll_eq { harness with phase := .stopping } ht ha

lemma cleared_bound (harness : Harness) (world : World) :
    (harness.cleared world).bound = world.bound.filter (· ∉ harness.heldPorts) := by
  unfold cleared clearedOfApp heldPorts
  cases harness.appHost with
  | none => rfl
  | some host =>
    change List.filter _ (List.filter _ world.bound) = _
    rw [List.filter_filter]
    refine List.filter_congr fun port _ => ?_
    simp

lemma cleared_modules (harness : Harness) (world : World) :
    (harness.cleared world).modules = world.modules.filter (!harness.loads ·) := by
  unfold cleared clearedOfApp loads
  cases harness.appHost with
  | none => exact (List.filter_eq_self.2 fun _ _ => rfl).symm
  | some host => rfl

lemma cleared_files (harness : Harness) (world : World) :
    (harness.cleared world).files =
      (harness.appHost.map (·.clearedFiles world)).getD world.files := by
  unfold cleared clearedOfApp
  cases harness.appHost with
  | none => rfl
  | some host => rfl

lemma workingArea?_eq_some {area : Location} (h : harness.workingArea? = some area) :
    ∃ host, harness.appHost = some host ∧ host.workingArea = some area :=
  Option.bind_eq_some_iff.1 h

lemma cleared_area {host : AppHost} {area : Location} (timeout : Number.Binary64)
    (hh : harness.appHost = some host) (ha : host.workingArea = some area) (hne : area ≠ []) :
    (∀ location, area <+: location → (harness.cleared world).files.at? location = none) ∨
    ∃ fault, (harness.cleared world).files = world.files ∧
      .refusedBySystem fault ∈ host.stopFailures world timeout := by
  rw [cleared_files, hh, Option.map_some, Option.getD_some]
  exact AppHost.clearedFiles_area ha hne world timeout

lemma cleared_beside {location : Location}
    (hb : ∀ area, harness.workingArea? = some area → ¬ area <+: location) :
    (harness.cleared world).files.at? location = world.files.at? location := by
  rw [cleared_files]
  cases hh : harness.appHost with
  | none => rfl
  | some host =>
    rw [Option.map_some, Option.getD_some]
    refine AppHost.clearedFiles_beside (fun area ha => hb area ?_) world
    rw [workingArea?, hh]
    exact ha

/-- Modules that are registered under a plain name belong to a harness by their files alone. -/
lemma isBelow_of_loads {module : LoadedModule} {text : String} (hn : module.name = .named text)
    (h : harness.loads module = true) :
    ∃ area, harness.workingArea? = some area ∧ module.isBelow area = true := by
  obtain ⟨host, hh, hl⟩ := (Option.any_eq_true _ _).1 h
  have hloads : host.footprint.loads module = true := hl
  rcases Footprint.loads_iff.1 hloads with ⟨number, -, hname⟩ | ⟨area, ha, hb⟩
  · rw [hn] at hname
    cases hname
  · refine ⟨area, ?_, hb⟩
    rw [workingArea?, hh]
    exact ha

lemma isReleased_cleared (harness : Harness) (world : World) (timeout : Number.Binary64)
    (hk : ∀ footprint ∈ harness.holdings.footprints, footprint.Known world) :
    harness.IsReleased timeout world (harness.cleared world) := by
  refine ⟨cleared_bound harness world, cleared_modules harness world,
    fun area ha module hm hfrom => ?_, fun module hm hn hfile => ?_, fun area ha => ?_,
    fun location => cleared_beside⟩
  · rw [cleared_modules] at hm
    obtain ⟨-, hnot⟩ := List.mem_filter.1 hm
    by_contra hfile
    obtain ⟨file, hfile⟩ := Option.ne_none_iff_exists'.1 hfile
    obtain ⟨place, hplace, hp⟩ := LoadedModule.isFrom_iff.1 hfrom
    rw [LoadedModule.places, LoadedModule.file_eq_some_iff.1 hfile] at hplace
    obtain rfl := List.mem_singleton.1 hplace
    obtain ⟨host, hh, ha⟩ := workingArea?_eq_some ha
    have hown : host.footprint.loads module = true :=
      Footprint.loads_iff.2 (Or.inr ⟨area, ha, LoadedModule.isBelow_iff.2 ⟨place, hfile, hp⟩⟩)
    have hl : harness.loads module = true := by
      rw [loads, hh]
      exact hown
    rw [hl] at hnot
    cases hnot
  · obtain ⟨text, hn⟩ := hn
    rw [cleared_modules, List.mem_filter]
    refine ⟨hm, ?_⟩
    by_contra hl
    rw [Bool.not_eq_true', Bool.not_eq_false] at hl
    obtain ⟨area, -, hb⟩ := isBelow_of_loads hn hl
    obtain ⟨file, hother, -⟩ := LoadedModule.isBelow_iff.1 hb
    cases hother.symm.trans hfile
  · obtain ⟨host, hh, ha⟩ := workingArea?_eq_some ha
    have hne : area ≠ [] := by
      obtain ⟨number, -, rfl⟩ := (hk _ (footprint_mem hh)).area area ha
      exact List.cons_ne_nil _ _
    rcases cleared_area timeout hh ha hne with hgone | ⟨fault, hfiles, hfault⟩
    · exact Or.inl hgone
    · exact Or.inr ⟨host, fault, hh, hfiles, hfault⟩

end Harness

/-- What someone holds is as it was. -/
structure Party.IsUntouched (party : Party) (before after : World) : Prop where
  ports : ∀ port ∈ party.holdings.ports, port ∈ after.bound
  modules : ∀ footprint ∈ party.holdings.footprints, ∀ module ∈ before.modules,
    footprint.loads module = true → module ∈ after.modules
  siblings : ∀ footprint ∈ party.holdings.footprints, ∀ area ∈ footprint.area,
    ∀ module ∈ before.modules, (∃ text, module.name = .named text) → module.isFrom area = true →
      module ∈ after.modules
  areas : ∀ footprint ∈ party.holdings.footprints, ∀ area ∈ footprint.area,
    ∀ location, area <+: location → after.files.at? location = before.files.at? location

namespace Fleet
variable {fleet : Fleet} {front back : List Party} {party : Party}

lemma holdings_subset {parties : List Party} (h : party ∈ parties) :
    party.holdings.ports ⊆ (holdingsOf parties).ports ∧
      party.holdings.footprints ⊆ (holdingsOf parties).footprints := by
  induction parties with
  | nil => cases h
  | cons first rest ih =>
    rcases List.mem_cons.1 h with rfl | hrest
    · exact ⟨List.subset_append_left _ _, List.subset_append_left _ _⟩
    · obtain ⟨hports, hfootprints⟩ := ih hrest
      exact ⟨fun _ hport => List.mem_append_right _ (hports hport),
        fun _ hfoot => List.mem_append_right _ (hfootprints hfoot)⟩

/-- What one of them holds is held beside what the others hold. -/
lemma IsSound.held_beside (hf : fleet.IsSound) (hp : fleet.parties = front ++ party :: back) :
    (party.holdings ++ holdingsOf (front ++ back)).Held fleet.world := by
  have hheld := hf.held
  rw [hp, holdingsOf_append, holdingsOf] at hheld
  rw [holdingsOf_append]
  refine hheld.of_perm ?_ ?_
  · simp only [Holdings.ports_append]
    exact List.perm_append_comm_assoc _ _ _
  · simp only [Holdings.footprints_append]
    exact List.perm_append_comm_assoc _ _ _

/-- The working areas of two parties are different ones, so no location is in both. -/
lemma IsSound.not_prefix (hf : fleet.IsSound) {harness : Harness}
    (hp : fleet.parties = front ++ .harness harness :: back) (hparty : party ∈ front ++ back)
    {footprint : Footprint} (hfoot : footprint ∈ party.holdings.footprints)
    {area own location : Location} (ha : area ∈ footprint.area)
    (hown : harness.workingArea? = some own) (hbelow : own <+: location) :
    ¬ area <+: location := by
  intro hinside
  have hheld := hf.held_beside hp
  obtain ⟨-, hfootprints⟩ := holdings_subset hparty
  obtain ⟨host, hhost, hworking⟩ := Harness.workingArea?_eq_some hown
  have hmem := Harness.footprint_mem hhost
  have hapart := (List.pairwise_append.1 hheld.apart).2.2 _ hmem _ (hfootprints hfoot)
  obtain ⟨number, -, rfl⟩ := (hheld.known _ (List.mem_append_left _ hmem)).area own hworking
  obtain ⟨other, -, rfl⟩ :=
    (hheld.known _ (List.mem_append_right _ (hfootprints hfoot))).area area ha
  obtain rfl := AppHost.areaOf_unique hbelow hinside
  exact hapart.area _ hworking ha

lemma IsSound.isUntouched (hf : fleet.IsSound) {harness : Harness}
    (hp : fleet.parties = front ++ .harness harness :: back) {timeout : Number.Binary64}
    {after : World} (hr : harness.IsReleased timeout fleet.world after)
    (hparty : party ∈ front ++ back) : party.IsUntouched fleet.world after := by
  have hheld := hf.held_beside hp
  obtain ⟨hports, hfootprints⟩ := holdings_subset hparty
  refine ⟨fun port hport => ?_, fun footprint hfoot module hm hl => ?_,
    fun footprint hfoot area ha module hm hn hfrom => ?_,
    fun footprint hfoot area ha location hprefix => hr.beside location fun own hown hbelow =>
      hf.not_prefix hp hparty hfoot ha hown hbelow hprefix⟩
  · rw [hr.ports, List.mem_filter]
    refine ⟨hheld.bound port (List.mem_append_right _ (hports hport)), ?_⟩
    have hapart := (List.nodup_append.1 hheld.nodup).2.2
    rw [decide_eq_true_eq, ← Harness.holdings_ports]
    exact fun hown => hapart port hown port (hports hport) rfl
  · rw [hr.modules, List.mem_filter]
    refine ⟨hm, ?_⟩
    by_contra hown
    obtain ⟨host, hhost, hloaded⟩ : ∃ host, harness.appHost = some host ∧
        host.isLoaded module = true := by
      simpa [Harness.loads, Option.any_eq_true] using hown
    have hmem := Harness.footprint_mem hhost
    have hapart := (List.pairwise_append.1 hheld.apart).2.2 _ hmem _ (hfootprints hfoot)
    have hnot := hapart.modules module hm hloaded
    rw [hl] at hnot
    cases hnot
  · rw [hr.modules, List.mem_filter]
    refine ⟨hm, ?_⟩
    by_contra hloads
    rw [Bool.not_eq_true', Bool.not_eq_false] at hloads
    obtain ⟨text, hn⟩ := hn
    obtain ⟨own, hown, hb⟩ := Harness.isBelow_of_loads hn hloads
    obtain ⟨file, hfile, hbelow⟩ := LoadedModule.isBelow_iff.1 hb
    obtain ⟨place, hplace, hprefix⟩ := LoadedModule.isFrom_iff.1 hfrom
    rw [LoadedModule.places, LoadedModule.file_eq_some_iff.1 hfile] at hplace
    obtain rfl := List.mem_singleton.1 hplace
    exact hf.not_prefix hp hparty hfoot ha hown hbelow hprefix

/-- A teardown of a harness that is neither new nor torn down, in any fleet: all that it held is
released but for packages without a file, all that others hold is as it was, and the harness has torn
down with the failures of its two steps. -/
theorem teardown_complete (hf : fleet.Reachable) {harness : Harness}
    (hp : fleet.parties = front ++ .harness harness :: back)
    (hnew : harness.phase ≠ .notStarted) (hold : harness.phase ≠ .stopped)
    {timeout : Number.Binary64}
    (ht : fleet.world.environment.readShutdownTimeout = .ok timeout) (ha : timeout.IsAccepted) :
    ∃ result left after, harness.teardown fleet.world = ⟨result, left, after⟩ ∧
      harness.IsReleased timeout fleet.world after ∧
      (∀ party ∈ front ++ back, party.IsUntouched fleet.world after) ∧
      Harness.HasTornDown (harness.stopFailures fleet.world timeout) result left := by
  have hsound := hf.sound
  have hc : harness.Consistent := hsound.harnesses harness (by rw [hp]; simp)
  obtain ⟨after, htear, hsame⟩ := Harness.teardown_eq hc hnew hold ht ha
  have hreleased : harness.IsReleased timeout fleet.world after := by
    obtain ⟨log, rfl⟩ := hsame
    have hcleared := harness.isReleased_cleared fleet.world timeout
      fun footprint hfoot => (hsound.held_beside hp).known footprint (List.mem_append_left _ hfoot)
    exact ⟨hcleared.ports, hcleared.modules, hcleared.fromArea, hcleared.packages, hcleared.area,
      hcleared.beside⟩
  exact ⟨_, _, after, htear, hreleased,
    fun party hparty => hsound.isUntouched hp hreleased hparty, harness.hasTornDown _⟩

/-- A world in which mock servers never finish and a key pair was asked for. -/
def hanging : World where
  behaviours := [(MockServer.serverName, .hangs)]
  keyPool := [⟨⟨3233, 17, 2753, 61, 53, 53, 49, 38⟩⟩]
  generated := [KeyPair.defaultSize]

lemma hanging_sound : hanging.Sound := by
  refine .of_currentLocation (fun pair hpair => ?_) rfl
  obtain rfl : pair = (["cwd"], .directory) := List.mem_singleton.1 hpair
  exact List.prefix_rfl

/-- A mock server that never finishes makes the teardown fail, and the port is free again. -/
theorem hanging_teardown : ∃ left after,
    (Harness.fresh.setup hanging).self.teardown (Harness.fresh.setup hanging).world =
      ⟨.error (.teardown .harness [.teardown (.unfinished MockServer.serverName 50000
        Environment.defaultShutdownTimeout) []]), left, after⟩ ∧
    left.mockServer = none ∧ left.phase = .failed ∧ after.bound = [] := by
  have hnew : Harness.new (.service .xsuaa) { hanging with generated := [] } =
      (.ok Harness.fresh, hanging) := by rfl
  have hsound : World.Sound { hanging with generated := [] } :=
    hanging_sound.mono le_rfl le_rfl (fun _ h => h) fun _ h => h
  have hsteps : Relation.ReflTransGen Step ⟨{ hanging with generated := [] }, []⟩
      ⟨(Harness.fresh.setup hanging).world, [.harness (Harness.fresh.setup hanging).self]⟩ := by
    refine .tail (.single (.join _ _ [] _ (.harness _ _ _ hnew))) ?_
    exact .act _ _ [] [] _ _ (.harness _ _ _ (.setup _ _))
  have hphase : (Harness.fresh.setup hanging).self.phase = .running := by rfl
  have hfailures : (Harness.fresh.setup hanging).self.stopFailures
      (Harness.fresh.setup hanging).world Environment.defaultShutdownTimeout =
        [.teardown (.unfinished MockServer.serverName 50000 Environment.defaultShutdownTimeout)
          []] := by rfl
  have hports : (Harness.fresh.setup hanging).self.heldPorts = [50000] := by rfl
  have hbound : (Harness.fresh.setup hanging).world.bound = [50000] := by rfl
  have htimeout : (Harness.fresh.setup hanging).world.environment.readShutdownTimeout =
      .ok Environment.defaultShutdownTimeout := rfl
  have hparties : [Party.harness (Harness.fresh.setup hanging).self] =
      [] ++ .harness (Harness.fresh.setup hanging).self :: [] := rfl
  obtain ⟨result, left, after, htear, hreleased, -, hends⟩ :=
    teardown_complete ⟨_, hsound, hsteps⟩ hparties (by rw [hphase]; decide)
      (by rw [hphase]; decide) htimeout
      (BackgroundServer.acceptsWait_iff.1 (by decide +kernel))
  rw [hfailures] at hends
  obtain ⟨hleft, rfl⟩ := hends.failed (by simp)
  refine ⟨left, after, htear, hends.mockServer, hleft, ?_⟩
  rw [hreleased.ports, hports, hbound]
  decide

/-- A world with a web application that imports a directory beside it. -/
def packaged (definition : Definition) : World where
  files := [
    (["cwd"], .directory),
    (["cwd", "web"], .directory),
    (["cwd", "web", "parts"], .directory),
    (["cwd", "web", "app.py"], .module ⟨[.importModule "parts"], .defines [("app", definition)]⟩)]

/-- A harness that serves the web application there. -/
def serving : Harness :=
  { Harness.fresh with
    config := { Harness.fresh.config with
      usesApplicationServer := true
      webAppDirectory := some ⟨0, ["web"]⟩ } }

lemma setup_served : (serving.setup (packaged (.application "ok"))).self.workingArea? =
    some (AppHost.areaOf 1) := by rfl

lemma teardown_served :
    let ready := serving.setup (packaged (.application "ok"))
    ∃ log, ready.self.teardown ready.world =
      ⟨.ok (), { serving with phase := .stopped, endpoints := ready.self.endpoints },
        { packaged (.application "ok") with
          nextPort := 50001
          areas := 1
          entries := 1
          modules := [⟨.named "parts", .portions [AppHost.areaOf 1 ++ ["webapp", "parts"]], []⟩]
          log := log }⟩ :=
  ⟨_, by rfl⟩

/-- A directory that the application has imported stays registered although the teardown succeeds
and the working area is gone. -/
theorem package_outlives_teardown :
    let ready := serving.setup (packaged (.application "ok"))
    let ended := ready.self.teardown ready.world
    ready.self.workingArea? = some (AppHost.areaOf 1) ∧
    ended.result = .ok () ∧ ended.self.phase = .stopped ∧ ended.world.bound = [] ∧
    ended.world.files = (packaged (.application "ok")).files ∧
    ended.world.modules =
      [⟨.named "parts", .portions [AppHost.areaOf 1 ++ ["webapp", "parts"]], []⟩] := by
  obtain ⟨log, hended⟩ := teardown_served
  dsimp only
  rw [hended]
  exact ⟨setup_served, rfl, rfl, rfl, rfl, rfl⟩

end Fleet

end MockIssuer
