import MockIssuer.Proofs.SearchPath

/-!
# Whose modules are registered

Any number of hosts start and stop in one world, in any order; a start that fails does so with a
failure that is handled, and a stop returns or tells of a failed teardown. The table of modules is
shared by all of them, and nothing in it says who registered a module. It can be read off the files:
the entry modules are those of the hosts that run and have one, each in the working area of its
host, and a module from a file in a working area is in the area of such a host, unless the search
path has led into the area at a time when no such host ran there
(`HostGroup.History.modules_owned`). The invariant counts such times in (`HostGroup.IsOwned`).

A package without a file is told by none, so it stays when its host stops
(`HostGroup.package_outlives_stop`).
-/
namespace MockIssuer
open AppHost (areaOf)

/-- A start that succeeded: the number of the working area that it made, and whether the copy of the
application there has the entry module. -/
structure Run where
  area : ℕ
  hasEntry : Bool
  deriving DecidableEq

/-- A host, with its run from a start that succeeded to the next stop. -/
structure Member where
  host : AppHost
  run : Option Run

namespace Member

/-- What happens to a host. A start fails with a failure that is handled only, and a stop with a
failed teardown. -/
inductive Act (world : World) : Member → Member → World → Prop where
  | started (host after : AppHost) (run : Option Run) (directory : Path) (port : ℤ) (url : String)
    (world' : World) (h : host.start directory port world = ⟨.ok url, after, world'⟩) :
    Act world ⟨host, run⟩
      ⟨after, some ⟨world'.areas, world'.files.isFile (host.entryFile world'.areas)⟩⟩ world'
  | failed (host after : AppHost) (run : Option Run) (directory : Path) (port : ℤ)
    (failure : Failure) (world' : World)
    (h : host.start directory port world = ⟨.error failure, after, world'⟩)
    (ho : failure.isOrdinary = true) : Act world ⟨host, run⟩ ⟨after, run⟩ world'
  | stopped (host after : AppHost) (run : Option Run) (result : Except Failure Unit)
    (world' : World) (h : host.stop world = ⟨result, after, world'⟩)
    (hr : ∀ failure, result = .error failure → failure.family = "ResourceTeardownError") :
    Act world ⟨host, run⟩ ⟨after, none⟩ world'
  | handled (host : AppHost) (run : Option Run) (request : Http.Request) :
    Act world ⟨host, run⟩ ⟨(host.handle request world).2, run⟩ world
  | drifted (host : AppHost) (run : Option Run) (server : BackgroundServer) (running : Running)
    (thread : Thread) (hs : host.server = some server) (hr : server.running = some running) :
    Act world ⟨host, run⟩ ⟨{ host with
      server := some { server with running := some { running with thread := thread } } }, run⟩ world

/-- The file of the entry module of a host that runs and has one. -/
def entryFile? (member : Member) : Option Location :=
  match member.run with
  | some ⟨area, true⟩ => some (member.host.entryFile area)
  | _ => none

/-- What the entry module of a host that runs is known by. -/
def origin? (member : Member) : Option (ModuleName × ModuleSource) :=
  match member.host.entry, member.run with
  | some number, some run => some (.entry number, .file (member.host.entryFile run.area))
  | _, _ => none

/-- What a host has fits its run. -/
structure IsInOrder (member : Member) : Prop where
  idle : member.run = none → member.host.entry = none ∧ member.host.workingArea = none
  running : ∀ run, member.run = some run → member.host.server.isSome = true ∧
    member.host.workingArea = some (areaOf run.area) ∧ member.host.entry.isSome = run.hasEntry

lemma IsInOrder.area_of_mem {member : Member} (h : member.IsInOrder) {area : Location}
    (ha : area ∈ member.host.workingArea) :
    ∃ run, member.run = some run ∧ area = areaOf run.area := by
  cases hrun : member.run with
  | none =>
    rw [(h.idle hrun).2] at ha
    cases ha
  | some run =>
    obtain ⟨-, harea, -⟩ := h.running run hrun
    exact ⟨run, rfl, Option.some.inj (ha.symm.trans harea)⟩

lemma IsInOrder.origin?_source {member : Member} (h : member.IsInOrder) :
    member.origin?.map (·.2) = member.entryFile?.map .file := by
  unfold origin? entryFile?
  cases hrun : member.run with
  | none => cases member.host.entry <;> rfl
  | some run =>
    obtain ⟨area, hasEntry⟩ := run
    obtain ⟨-, -, hentry⟩ := h.running _ hrun
    cases he : member.host.entry <;> cases hasEntry <;> simp_all

lemma exists_of_origin? {member : Member} {origin : ModuleName × ModuleSource}
    (h : member.origin? = some origin) : ∃ number run, member.host.entry = some number ∧
      member.run = some run ∧ origin = (.entry number, .file (member.host.entryFile run.area)) := by
  unfold origin? at h
  split at h
  · next number run hentry hrun => exact ⟨number, run, hentry, hrun, (Option.some.inj h).symm⟩
  · cases h

lemma IsInOrder.run_eq_none {member : Member} (h : member.IsInOrder)
    (hn : member.host.server = none) : member.run = none := by
  cases hrun : member.run with
  | none => rfl
  | some run =>
    obtain ⟨hserver, -⟩ := h.running run hrun
    rw [hn] at hserver
    cases hserver

end Member

/-- Hosts in one world. -/
structure HostGroup where
  world : World
  members : List Member

/-- A world in which no host has started anything yet. -/
structure World.Untouched (world : World) : Prop where
  sound : world.Sound
  entries : world.modules.entries = []
  modules : ∀ module ∈ world.modules, ∀ number, module.isBelow (areaOf number) = false

namespace HostGroup

/-- One step: a host joins, something happens to a host, or the world changes. -/
inductive Step : HostGroup → HostGroup → Prop where
  | join (world : World) (members : List Member) (entryModule appName : String)
    (host : Option String) : Step ⟨world, members⟩
      ⟨world, ⟨{ entryModule := entryModule, appName := appName, host := host }, none⟩ :: members⟩
  | act (world world' : World) (front back : List Member) (member after : Member)
    (h : member.Act world after world') :
    Step ⟨world, front ++ member :: back⟩ ⟨world', front ++ after :: back⟩
  | change (world after : World) (members : List Member) (h : world.Changes after) :
    Step ⟨world, members⟩ ⟨after, members⟩

/-- A group that steps lead to from an untouched world without hosts, with the groups that there
were on the way, the last one first. -/
inductive History : List HostGroup → HostGroup → Prop where
  | start (world : World) (h : world.Untouched) : History [] ⟨world, []⟩
  | step {past : List HostGroup} {group after : HostGroup} (h : History past group)
    (hs : Step group after) : History (group :: past) after

/-- The hosts of a group as a fleet. -/
def fleet (group : HostGroup) : Fleet :=
  ⟨group.world, group.members.map fun member => .host member.host⟩

end HostGroup

lemma Member.Act.act {world world' : World} {member after : Member}
    (h : member.Act world after world') : AppHost.Act member.host world after.host world' := by
  cases h with
  | started host after run directory port url _ h =>
    have hact := AppHost.Act.start host directory port world
    rwa [h] at hact
  | failed host after run directory port failure _ h _ =>
    have hact := AppHost.Act.start host directory port world
    rwa [h] at hact
  | stopped host after run result _ h _ =>
    have hact := AppHost.Act.stop host world
    rwa [h] at hact
  | handled host run request => exact .handle host request world
  | drifted host run server running thread hs hr =>
    exact .drift host world server running thread hs hr

namespace HostGroup
variable {group after : HostGroup} {past : List HostGroup} {P : ℕ → Prop}

lemma Step.fleet (h : Step group after) : Fleet.Step group.fleet after.fleet := by
  cases h with
  | join world members entryModule appName host =>
    exact .join world world _ _ (.host entryModule appName host)
  | act world world' front back member left h =>
    simp only [HostGroup.fleet, List.map_append, List.map_cons]
    exact .act world world' _ _ _ _ (.host _ _ _ h.act)
  | change world last members h => exact .change world last _ h

lemma History.fleet (h : History past group) : group.fleet.Reachable := by
  induction h with
  | start world hw => exact ⟨world, hw.sound, .refl⟩
  | step _ hs ih =>
    obtain ⟨world, hsound, hsteps⟩ := ih
    exact ⟨world, hsound, hsteps.tail hs.fleet⟩

lemma footprints_fleet (members : List Member) :
    (Fleet.holdingsOf (members.map fun member => .host member.host)).footprints =
      members.map (·.host.footprint) := by
  induction members with
  | nil => rfl
  | cons member rest ih =>
    rw [List.map_cons, Fleet.holdingsOf, Holdings.footprints_append, ih]
    rfl

lemma apart_of_mem {world : World} {front back : List Member} {member other : Member}
    (h : Fleet.IsSound (fleet ⟨world, front ++ member :: back⟩)) (ho : other ∈ front ++ back) :
    member.host.footprint.Apart world other.host.footprint := by
  have hapart := h.held.apart
  rw [HostGroup.fleet, footprints_fleet, List.pairwise_map] at hapart
  have hfirst := (List.perm_middle.pairwise_iff fun hap => Footprint.Apart.symm hap).1 hapart
  exact (List.pairwise_cons.1 hfirst).1 other ho

/-- Whether some host runs, with an entry module, in the working area of a number. -/
def Owns (members : List Member) (number : ℕ) : Prop :=
  ∃ member ∈ members, member.run = some ⟨number, true⟩

/-- Whether an import can lead into a working area in which no host runs with an entry module. -/
def LaysOpen (group : HostGroup) (number : ℕ) : Prop :=
  ¬ Owns group.members number ∧ group.world.Exposes number

/-- What holds at any time: hosts have what fits their runs, the entry modules are those of the
hosts that run, and a module from a file in a working area is in the area of a host that runs with an
entry module, or in one that was laid open. -/
structure IsOwned (opened : ℕ → Prop) (group : HostGroup) : Prop where
  inOrder : ∀ member ∈ group.members, member.IsInOrder
  origins : group.world.modules.entryOrigins.Perm (group.members.filterMap (·.origin?))
  modules : ∀ module ∈ group.world.modules, ∀ number, module.isBelow (areaOf number) = true →
    Owns group.members number ∨ opened number

lemma IsOwned.mono (h : group.IsOwned P) {Q : ℕ → Prop} (hpq : ∀ number, P number → Q number) :
    group.IsOwned Q :=
  ⟨h.inOrder, h.origins, fun module hm number hb => (h.modules module hm number hb).imp_right
    (hpq number)⟩

section Steps
variable {world world' : World} {members front back : List Member} {member left : Member}
  {number : ℕ}

lemma Owns.replace (h : Owns (front ++ member :: back) number)
    (hr : member.run = some ⟨number, true⟩ → left.run = some ⟨number, true⟩) :
    Owns (front ++ left :: back) number := by
  obtain ⟨other, ho, hrun⟩ := h
  rcases List.mem_append.1 ho with hfront | ho
  · exact ⟨other, List.mem_append_left _ hfront, hrun⟩
  · rcases List.mem_cons.1 ho with rfl | hback
    · exact ⟨left, by simp, hr hrun⟩
    · exact ⟨other, by simp [hback], hrun⟩

lemma forall_replace {P : Member → Prop} (h : ∀ one ∈ front ++ member :: back, P one)
    (hl : P left) : ∀ one ∈ front ++ left :: back, P one := by
  simp only [List.forall_mem_append, List.forall_mem_cons] at h ⊢
  exact ⟨h.1, hl, h.2.2⟩

lemma perm_origins {before origins : List (ModuleName × ModuleSource)}
    (h : before.Perm ((front ++ member :: back).filterMap (·.origin?)))
    (hm : member.origin? = none) (hl : origins = before ++ left.origin?.toList) :
    origins.Perm ((front ++ left :: back).filterMap (·.origin?)) := by
  rw [List.filterMap_append, List.filterMap_cons_none hm] at h
  rw [hl, List.filterMap_append]
  cases hleft : left.origin? with
  | none =>
    rw [List.filterMap_cons_none hleft, Option.toList_none, List.append_nil]
    exact h
  | some origin =>
    rw [List.filterMap_cons_some hleft, Option.toList_some]
    exact ((h.append_right [origin]).trans (List.perm_append_singleton _ _)).trans
      List.perm_middle.symm

/-- A module that was left in a working area is in the area of a host that runs with an entry
module, or in one that is laid open. -/
lemma owns_or_laysOpen {module : LoadedModule} (h : world.IsLeft module)
    (hb : module.isBelow (areaOf number) = true) :
    Owns members number ∨ LaysOpen ⟨world, members⟩ number := by
  by_cases howns : Owns members number
  · exact Or.inl howns
  · refine Or.inr ⟨howns, ?_⟩
    rcases h with hstray | hpackage
    · exact hstray.exposes hb
    · obtain ⟨file, hfile, -⟩ := LoadedModule.isBelow_iff.1 hb
      cases hfile.symm.trans hpackage.file_eq_none

lemma owns_or_isLeft {module : LoadedModule} (h : AppHost.IsAdded world module)
    (hnew : Owns members (world.areas + 1)) (hb : module.isBelow (areaOf number) = true) :
    Owns members number ∨ world.IsLeft module := by
  cases h with
  | entry _ hbelow => exact Or.inl (LoadedModule.eq_of_isBelow hb hbelow ▸ hnew)
  | sibling _ _ hbelow => exact Or.inl (LoadedModule.eq_of_isBelow hb hbelow ▸ hnew)
  | package hpackage => exact Or.inr (Or.inr hpackage)
  | stray hstray => exact Or.inr (Or.inl hstray)

namespace IsOwned

lemma grow (h : IsOwned P ⟨world, members⟩)
    (hopen : ∀ number, LaysOpen ⟨world, members⟩ number → P number) {left : ModuleTable}
    (hm : world'.modules = world.modules ++ left)
    (hleft : ∀ module ∈ left, world.IsLeft module) : IsOwned P ⟨world', members⟩ where
  inOrder := h.inOrder
  origins := by
    have hnone : ModuleTable.entryOrigins left = [] :=
      ModuleTable.entryOrigins_of_named fun module hmodule => (hleft module hmodule).exists_name
    have horigins := h.origins
    simp only [hm, ModuleTable.entryOrigins_append, hnone, List.append_nil] at horigins ⊢
    exact horigins
  modules module hmodule number hb := by
    rw [hm] at hmodule
    rcases List.mem_append.1 hmodule with hold | hnew
    · exact h.modules module hold number hb
    · exact (owns_or_laysOpen (hleft module hnew) hb).imp_right (hopen number)

lemma of_modules_eq (h : IsOwned P ⟨world, members⟩) (hm : world'.modules = world.modules) :
    IsOwned P ⟨world', members⟩ where
  inOrder := h.inOrder
  origins := by
    have horigins := h.origins
    rwa [← hm] at horigins
  modules module hmodule := h.modules module (hm ▸ hmodule)

lemma replace (h : IsOwned P ⟨world, front ++ member :: back⟩) (ho : left.IsInOrder)
    (hr : left.run = member.run) (hn : left.origin? = member.origin?) :
    IsOwned P ⟨world, front ++ left :: back⟩ where
  inOrder := forall_replace h.inOrder ho
  origins := by
    have horigins := h.origins
    simp only [List.filterMap_append, List.filterMap_cons, hn] at horigins ⊢
    exact horigins
  modules module hm number hb := (h.modules module hm number hb).imp_left fun howns =>
    howns.replace fun hrun => hr.trans hrun

lemma join (h : IsOwned P ⟨world, members⟩) (entryModule appName : String)
    (host : Option String) :
    IsOwned P ⟨world, ⟨{ entryModule := entryModule, appName := appName, host := host }, none⟩ ::
      members⟩ where
  inOrder :=
    List.forall_mem_cons.2 ⟨⟨fun _ => ⟨rfl, rfl⟩, fun run hrun => by cases hrun⟩, h.inOrder⟩
  origins := h.origins
  modules module hm number hb :=
    (h.modules module hm number hb).imp_left fun ⟨owner, hmem, hrun⟩ =>
      ⟨owner, List.mem_cons_of_mem _ hmem, hrun⟩

lemma failed {host after : AppHost} {run : Option Run} {directory : Path} {port : ℤ}
    {failure : Failure} (h : IsOwned P ⟨world, front ++ ⟨host, run⟩ :: back⟩)
    (hopen : ∀ number, LaysOpen ⟨world, front ++ ⟨host, run⟩ :: back⟩ number → P number)
    (hs : world.Sound)
    (hstart : host.start directory port world = ⟨.error failure, after, world'⟩)
    (ho : failure.isOrdinary = true) : IsOwned P ⟨world', front ++ ⟨after, run⟩ :: back⟩ := by
  rcases AppHost.start_cases hs host directory port with ⟨_, _, -, hrefused, log, rfl⟩ |
    ⟨hn, entry, ports, launched, hl, hcases⟩
  · rw [hrefused] at hstart
    obtain ⟨-, rfl, rfl⟩ := Outcome.mk.inj hstart
    exact h.of_modules_eq rfl
  have horder : Member.IsInOrder ⟨host, run⟩ := h.inOrder _ (by simp)
  obtain ⟨hentry, -⟩ := horder.idle (horder.run_eq_none hn)
  rcases hcases with ⟨_, _, -, -, htaken, log, rfl⟩ | ⟨_, hbroken, -, hstopped⟩ |
    ⟨_, _, _, _, -, -, hstarted⟩
  · rw [htaken] at hstart
    obtain ⟨-, rfl, rfl⟩ := Outcome.mk.inj hstart
    have hself : { host with entry := none } = host := by
      cases host
      cases hentry
      rfl
    rw [hself]
    obtain ⟨left, hmodules, hleft⟩ := hl.filter_modules hs hentry
    exact h.grow hopen hmodules hleft
  · rw [hstopped] at hstart
    obtain rfl := Except.error.inj (Outcome.mk.inj hstart).1
    rw [ho] at hbroken
    cases hbroken
  · rw [hstarted] at hstart
    cases (Outcome.mk.inj hstart).1

/-- What a launch adds is the host's that runs then, or is left: the host's are its entry module and
what was loaded from its area. -/
lemma launched {host : AppHost} {entry : Option ℕ} {ports : List ℕ} {hasEntry : Bool}
    (h : IsOwned P ⟨world, front ++ ⟨host, none⟩ :: back⟩)
    (hopen : ∀ number, LaysOpen ⟨world, front ++ ⟨host, none⟩ :: back⟩ number → P number)
    (hl : AppHost.Launched host world entry ports world')
    (hr : host.Registers (host.entryFile (world.areas + 1)) hasEntry world entry world')
    (hrun : left.run = some ⟨world.areas + 1, hasEntry⟩)
    (hserver : left.host.server.isSome = true)
    (harea : left.host.workingArea = some (areaOf (world.areas + 1)))
    (hentry : left.host.entry = entry) (hmodule : left.host.entryModule = host.entryModule) :
    IsOwned P ⟨world', front ++ left :: back⟩ := by
  have hidle : host.entry = none := ((h.inOrder ⟨host, none⟩ (by simp)).idle rfl).1
  have hkept {number : ℕ} (howns : Owns (front ++ ⟨host, none⟩ :: back) number) :
      Owns (front ++ left :: back) number := howns.replace fun hnone => by cases hnone
  refine ⟨forall_replace h.inOrder ⟨fun hnone => ?_, fun run hsome => ?_⟩, ?_,
    fun module hm number hb => ?_⟩
  · rw [hrun] at hnone
    cases hnone
  · obtain rfl := Option.some.inj (hrun.symm.trans hsome)
    refine ⟨hserver, harea, ?_⟩
    rw [hentry, hr.entry, hidle]
    cases hasEntry <;> rfl
  · refine perm_origins h.origins (by simp [Member.origin?]) (hr.origins.trans ?_)
    have hfile : left.host.entryFile (world.areas + 1) = host.entryFile (world.areas + 1) := by
      rw [AppHost.entryFile, AppHost.entryFile, hmodule]
    rw [Member.origin?, hentry, hr.entry, hidle, hrun, ← hfile]
    cases hasEntry <;> rfl
  · obtain ⟨added, hmodules, hloaded⟩ := hl.loaded
    rw [hmodules] at hm
    rcases List.mem_append.1 hm with hold | hmem
    · exact (h.modules module hold number hb).imp_left hkept
    rcases hloaded with ⟨-, -, rfl⟩ | ⟨hsome, -, hadded⟩
    · cases hmem
    -- Something was loaded, so there is an entry module and the new area has an owner.
    have he : hasEntry = true := by
      rw [hr.entry, hidle] at hsome
      cases hasEntry with
      | true => rfl
      | false => cases hsome
    have hnew : Owns (front ++ left :: back) (world.areas + 1) :=
      ⟨left, by simp, by rw [hrun, he]⟩
    rcases owns_or_isLeft (hadded module hmem) hnew hb with howns | hleft
    · exact Or.inl howns
    · exact (owns_or_laysOpen hleft hb).imp hkept (hopen number)

lemma started {host after : AppHost} {run : Option Run} {directory : Path} {port : ℤ}
    {url : String} (h : IsOwned P ⟨world, front ++ ⟨host, run⟩ :: back⟩)
    (hopen : ∀ number, LaysOpen ⟨world, front ++ ⟨host, run⟩ :: back⟩ number → P number)
    (hs : world.Sound)
    (hstart : host.start directory port world = ⟨.ok url, after, world'⟩) :
    IsOwned P ⟨world', front ++ ⟨after,
      some ⟨world'.areas, world'.files.isFile (host.entryFile world'.areas)⟩⟩ :: back⟩ := by
  have hregisters := AppHost.start_registers hs (congrArg Outcome.result hstart)
  rw [hstart] at hregisters
  rcases AppHost.start_cases hs host directory port with ⟨_, _, -, hrefused, hsame⟩ |
    ⟨hn, entry, ports, launched, hl, ⟨_, _, -, -, htaken, -⟩ | ⟨_, -, -, hbroken⟩ |
      ⟨_, hosted, server, port, -, -, hstarted⟩⟩
  · rw [hrefused] at hstart
    cases (Outcome.mk.inj hstart).1
  · rw [htaken] at hstart
    cases (Outcome.mk.inj hstart).1
  · rw [hbroken] at hstart
    cases (Outcome.mk.inj hstart).1
  · rw [hstarted] at hstart
    obtain ⟨-, rfl, rfl⟩ := Outcome.mk.inj hstart
    obtain rfl : run = none := Member.IsInOrder.run_eq_none (h.inOrder ⟨host, run⟩ (by simp)) hn
    rw [hl.areas]
    exact h.launched hopen hl hregisters rfl rfl rfl rfl rfl

end IsOwned

lemma filter_origins {p : ModuleName × ModuleSource → Bool}
    (hk : ∀ other ∈ front ++ back, ∀ origin, other.origin? = some origin → p origin = true)
    (hm : ∀ origin, member.origin? = some origin → p origin = false) (hl : left.origin? = none) :
    ((front ++ member :: back).filterMap (·.origin?)).filter p =
      (front ++ left :: back).filterMap (·.origin?) := by
  have hpart (part : List Member) (hp : part ⊆ front ++ back) :
      (part.filterMap (·.origin?)).filter p = part.filterMap (·.origin?) := by
    refine List.filter_eq_self.2 fun origin ho => ?_
    obtain ⟨other, hother, horigin⟩ := List.mem_filterMap.1 ho
    exact hk other (hp hother) origin horigin
  have hfront := hpart front (List.subset_append_left _ _)
  have hback := hpart back (List.subset_append_right _ _)
  rw [List.filterMap_append, List.filterMap_append, List.filterMap_cons_none hl,
    List.filter_append, hfront]
  cases hmember : member.origin? with
  | none => rw [List.filterMap_cons_none hmember, hback]
  | some origin =>
    rw [List.filterMap_cons_some hmember, List.filter_cons_of_neg (by simp [hm origin hmember]),
      hback]

lemma loads_origin {origin : ModuleName × ModuleSource} (h : member.origin? = some origin) :
    member.host.footprint.loads ⟨origin.1, origin.2, []⟩ = true := by
  obtain ⟨number, run, hentry, -, rfl⟩ := Member.exists_of_origin? h
  exact Footprint.loads_iff.2 (Or.inl ⟨number, hentry, rfl⟩)

lemma loads_origin_eq_false {other : Member} (hm : member.IsInOrder) (ho : other.IsInOrder)
    (hap : member.host.footprint.Apart world other.host.footprint)
    {origin : ModuleName × ModuleSource} (h : other.origin? = some origin) :
    member.host.footprint.loads ⟨origin.1, origin.2, []⟩ = false := by
  obtain ⟨number, run, hentry, hrun, rfl⟩ := Member.exists_of_origin? h
  rw [← Bool.not_eq_true]
  intro hl
  rcases Footprint.loads_iff.1 hl with ⟨known, hknown, hname⟩ | ⟨area, harea, hb⟩
  · obtain rfl : number = known := ModuleName.entry.inj hname
    exact hap.entry number hknown hentry
  · obtain ⟨file, hfile, hp⟩ := LoadedModule.isBelow_iff.1 hb
    obtain rfl := ModuleSource.file.inj (LoadedModule.file_eq_some_iff.1 hfile)
    obtain ⟨one, -, rfl⟩ := hm.area_of_mem harea
    rw [AppHost.areaOf_unique hp (other.host.areaOf_prefix_entryFile run.area)] at harea
    exact hap.area _ harea (ho.running run hrun).2.1

namespace IsOwned

/-- A stop takes away the modules of one host and leaves those of all others. -/
lemma cleared {host : AppHost} {run : Option Run}
    (h : IsOwned P ⟨world, front ++ ⟨host, run⟩ :: back⟩)
    (hf : Fleet.IsSound (fleet ⟨world, front ++ ⟨host, run⟩ :: back⟩)) :
    IsOwned P ⟨host.cleared world, front ++ ⟨host.stopped, none⟩ :: back⟩ := by
  have horder : Member.IsInOrder ⟨host, run⟩ := h.inOrder _ (by simp)
  refine ⟨forall_replace h.inOrder ⟨fun _ => ⟨rfl, rfl⟩, fun run hrun => (by cases hrun)⟩, ?_,
    fun module hm number hb => ?_⟩
  · have hothers : ∀ other ∈ front ++ back, ∀ origin, other.origin? = some origin →
        (!host.footprint.loads ⟨origin.1, origin.2, []⟩) = true := by
      intro other ho origin horigin
      rw [loads_origin_eq_false horder (h.inOrder other (by grind)) (apart_of_mem hf ho) horigin]
      rfl
    have hown : ∀ origin, Member.origin? ⟨host, run⟩ = some origin →
        (!host.footprint.loads ⟨origin.1, origin.2, []⟩) = false := by
      intro origin horigin
      rw [loads_origin horigin]
      rfl
    have hfilter : (host.cleared world).modules.entryOrigins = world.modules.entryOrigins.filter
        fun origin => !host.footprint.loads ⟨origin.1, origin.2, []⟩ :=
      ModuleTable.entryOrigins_filter (p := (!host.footprint.loads ·)) (fun _ => rfl) world.modules
    rw [hfilter, ← filter_origins hothers hown rfl]
    exact h.origins.filter _
  · obtain ⟨hmem, hnot⟩ := List.mem_filter.1 hm
    refine (h.modules module hmem number hb).imp_left fun howns => howns.replace fun hrun => ?_
    have hloaded : host.footprint.loads module = true :=
      Footprint.loads_iff.2 (Or.inr ⟨_, (horder.running _ hrun).2.1, hb⟩)
    change (!host.footprint.loads module) = true at hnot
    rw [hloaded] at hnot
    cases hnot

lemma stopped {host after : AppHost} {run : Option Run} {result : Except Failure Unit}
    (h : IsOwned P ⟨world, front ++ ⟨host, run⟩ :: back⟩)
    (hf : Fleet.IsSound (fleet ⟨world, front ++ ⟨host, run⟩ :: back⟩))
    (hstop : host.stop world = ⟨result, after, world'⟩)
    (hr : ∀ failure, result = .error failure → failure.family = "ResourceTeardownError") :
    IsOwned P ⟨world', front ++ ⟨after, none⟩ :: back⟩ := by
  rcases host.stop_cases world with ⟨failure, hfault, hunread⟩ | ⟨timeout, last, hdone, hsame⟩
  · rw [hunread] at hstop
    obtain ⟨rfl, -, -⟩ := Outcome.mk.inj hstop
    exact absurd (hr _ rfl) hfault.family_ne
  · rw [hdone] at hstop
    obtain ⟨-, rfl, rfl⟩ := Outcome.mk.inj hstop
    obtain ⟨log, rfl⟩ := hsame
    exact (h.cleared hf).of_modules_eq rfl

lemma act (h : IsOwned P ⟨world, front ++ member :: back⟩)
    (hopen : ∀ number, LaysOpen ⟨world, front ++ member :: back⟩ number → P number)
    (hf : Fleet.IsSound (fleet ⟨world, front ++ member :: back⟩))
    (ha : member.Act world left world') : IsOwned P ⟨world', front ++ left :: back⟩ := by
  have horder : member.IsInOrder := h.inOrder member (by simp)
  cases ha with
  | started host after run directory port url _ hstart => exact h.started hopen hf.world hstart
  | failed host after run directory port failure _ hstart ho =>
    exact h.failed hopen hf.world hstart ho
  | stopped host after run result _ hstop hr => exact h.stopped hf hstop hr
  | handled host run request => exact h.replace ⟨horder.idle, horder.running⟩ rfl rfl
  | drifted host run server running thread hs hr =>
    exact h.replace ⟨horder.idle, fun one hone => ⟨rfl, (horder.running one hone).2⟩⟩ rfl rfl

end IsOwned

end Steps

/-- Every step keeps the invariant, where the areas count that are laid open before it. -/
theorem IsOwned.step (h : group.IsOwned P) (hopen : ∀ number, group.LaysOpen number → P number)
    (hf : group.fleet.IsSound) (hstep : Step group after) : after.IsOwned P := by
  cases hstep with
  | join world members entryModule appName host => exact h.join entryModule appName host
  | act world world' front back member left ha => exact h.act hopen hf ha
  | change world last members hc => exact h.of_modules_eq hc.modules

lemma isOwned_of_untouched {world : World} (hw : world.Untouched) : IsOwned P ⟨world, []⟩ where
  inOrder member hm := by cases hm
  origins := by
    simp only [ModuleTable.entryOrigins, hw.entries]
    exact .nil
  modules module hm number hb := by
    rw [hw.modules module hm number] at hb
    cases hb

/-- The invariant holds of every group that there can be, where the areas count that were laid open
on the way. -/
theorem History.isOwned (h : History past group) :
    group.IsOwned fun number => ∃ earlier ∈ past, earlier.LaysOpen number := by
  induction h with
  | start world hw => exact isOwned_of_untouched hw
  | @step past group after hprior hstep ih =>
    have hmono : group.IsOwned fun number => ∃ earlier ∈ group :: past, earlier.LaysOpen number :=
      ih.mono fun number ⟨earlier, he, ho⟩ => ⟨earlier, List.mem_cons_of_mem _ he, ho⟩
    exact hmono.step (fun number ho => ⟨group, List.mem_cons_self, ho⟩) hprior.fleet.sound hstep

lemma IsOwned.perm_entryFiles (h : group.IsOwned P) :
    (group.world.modules.entries.map (·.source)).Perm
      ((group.members.filterMap (·.entryFile?)).map .file) := by
  have hfiles := h.origins.map (·.2)
  have hfirst : group.world.modules.entryOrigins.map (·.2) =
      group.world.modules.entries.map (·.source) := by
    rw [ModuleTable.entryOrigins, List.map_map]
    rfl
  have hlast : (group.members.filterMap (·.origin?)).map (·.2) =
      (group.members.filterMap (·.entryFile?)).map .file := by
    rw [List.map_filterMap, List.map_filterMap]
    exact List.filterMap_congr fun member hm => (h.inOrder member hm).origin?_source
  rwa [hfirst, hlast] at hfiles

lemma IsOwned.isBelow_of_loads (h : group.IsOwned P) (hf : group.fleet.IsSound)
    {member : Member} (hmem : member ∈ group.members) {module : LoadedModule}
    (hm : module ∈ group.world.modules) (hl : member.host.footprint.loads module = true) :
    ∃ run, member.run = some run ∧ module.isBelow (areaOf run.area) = true := by
  obtain ⟨world, members⟩ := group
  obtain ⟨front, back, rfl⟩ := List.append_of_mem hmem
  have horder : member.IsInOrder := h.inOrder member hmem
  rcases Footprint.loads_iff.1 hl with ⟨number, -, hname⟩ | ⟨area, harea, hb⟩
  · have hentry : module.isEntry = true := by simp [LoadedModule.isEntry, hname]
    have horigin : module.origin ∈ world.modules.entryOrigins :=
      List.mem_map_of_mem (List.mem_filter.2 ⟨hm, hentry⟩)
    obtain ⟨other, ho, hother⟩ := List.mem_filterMap.1 (h.origins.mem_iff.1 horigin)
    obtain rfl : other = member := by
      by_contra hne
      have hbeside : other ∈ front ++ back := by grind
      have hnot :=
        loads_origin_eq_false horder (h.inOrder other ho) (apart_of_mem hf hbeside) hother
      exact absurd (hl.symm.trans hnot) (by decide)
    obtain ⟨_, run, -, hrun, hfile⟩ := Member.exists_of_origin? hother
    exact ⟨run, hrun, LoadedModule.isBelow_iff.2
      ⟨_, LoadedModule.file_eq_some_iff.2 (congrArg Prod.snd hfile),
        other.host.areaOf_prefix_entryFile run.area⟩⟩
  · obtain ⟨run, hrun, rfl⟩ := horder.area_of_mem harea
    exact ⟨run, hrun, hb⟩

lemma IsOwned.pairwise_area_ne (h : group.IsOwned P) (hf : group.fleet.IsSound) :
    (group.members.filterMap (·.run)).Pairwise (·.area ≠ ·.area) := by
  have hapart := hf.held.apart
  rw [HostGroup.fleet, footprints_fleet, List.pairwise_map] at hapart
  refine List.pairwise_filterMap.2 (hapart.imp_of_mem fun {first second} hfirst hsecond hap => ?_)
  intro run hrun other hother hsame
  have harea := ((h.inOrder first hfirst).running run hrun).2.1
  have hin := ((h.inOrder second hsecond).running other hother).2.1
  rw [← hsame] at hin
  exact hap.area _ harea hin

lemma IsOwned.stop (h : group.IsOwned P) (hf : group.fleet.IsSound) {member : Member}
    (hmem : member ∈ group.members) {module : LoadedModule} (hm : module ∈ group.world.modules)
    (hgone : module ∉ (member.host.stop group.world).world.modules) :
    ∃ run, member.run = some run ∧ module.isBelow (areaOf run.area) = true := by
  refine h.isBelow_of_loads hf hmem hm ?_
  rcases member.host.stop_cases group.world with ⟨_, -, hstop⟩ | ⟨_, _, hstop, log, rfl⟩
  · rw [hstop] at hgone
    exact absurd hm hgone
  · rw [hstop] at hgone
    by_contra hnot
    rw [Bool.not_eq_true] at hnot
    exact hgone (List.mem_filter.2 ⟨hm, congrArg not hnot⟩)

lemma IsOwned.start (h : group.IsOwned P) (hf : group.fleet.IsSound) {member : Member}
    (hmem : member ∈ group.members) (directory : Path) (port : ℤ) :
    group.world.modules ⊆ (member.host.start directory port group.world).world.modules := by
  have horder := h.inOrder member hmem
  have hs : group.world.Sound := hf.world
  rcases AppHost.start_cases hs member.host directory port with
    ⟨_, _, -, hstart, log, rfl⟩ | ⟨hn, _, _, launched, hl, ⟨_, _, -, -, hstart, log, rfl⟩ |
      ⟨_, -, -, hstart⟩ | ⟨_, _, _, _, -, -, hstart⟩⟩
  · rw [hstart]
    exact List.Subset.refl _
  · obtain ⟨left, hmodules, -⟩ :=
      hl.filter_modules hs (horder.idle (horder.run_eq_none hn)).1
    rw [hstart]
    simp only [hmodules]
    exact List.subset_append_left _ _
  · obtain ⟨added, hmodules, -⟩ := hl.modules
    rw [hstart, hmodules]
    exact List.subset_append_left _ _
  · obtain ⟨added, hmodules, -⟩ := hl.modules
    rw [hstart, hmodules]
    exact List.subset_append_left _ _

/-- Whose modules are registered in a group with a past. The registered entry modules are those of the
hosts that run with one, each once; hosts that run have working areas of their own. A module that
came from a working area is in the area of a host that runs with an entry module, or has no file, or
is in an area that was laid open. A stop forgets modules from files in the working area of the host
only, and a start, failed or not, none at all. -/
structure HasOwners (past : List HostGroup) (group : HostGroup) : Prop where
  entries : (group.world.modules.entries.map (·.source)).Perm
    ((group.members.filterMap (·.entryFile?)).map .file)
  areas : ∀ member ∈ group.members, ∀ run, member.run = some run →
    member.host.workingArea = some (areaOf run.area)
  apart : (group.members.filterMap (·.run)).Pairwise (·.area ≠ ·.area)
  modules : ∀ module ∈ group.world.modules, ∀ number, module.isFrom (areaOf number) = true →
    (∃ member ∈ group.members, member.run = some ⟨number, true⟩) ∨ module.file = none ∨
      ∃ earlier ∈ past, earlier.LaysOpen number
  stop : ∀ member ∈ group.members, ∀ module ∈ group.world.modules,
    module ∉ (member.host.stop group.world).world.modules →
      ∃ run, member.run = some run ∧ module.isBelow (areaOf run.area) = true
  start : ∀ member ∈ group.members, ∀ directory port,
    group.world.modules ⊆ (member.host.start directory port group.world).world.modules

/-- The table of modules at any time, whatever the hosts have done. -/
theorem History.modules_owned (h : History past group) : group.HasOwners past := by
  have hf := h.fleet.sound
  have ho := h.isOwned
  refine ⟨ho.perm_entryFiles, fun member hm run hrun => ?_, ho.pairwise_area_ne hf,
    fun module hm number hfrom => ?_, fun member hm module hmodule => ho.stop hf hm hmodule,
    fun member hm => ho.start hf hm⟩
  · exact ((ho.inOrder member hm).running run hrun).2.1
  · cases hfile : module.file with
    | none => exact Or.inr (Or.inl rfl)
    | some file =>
      have hb := (LoadedModule.isFrom_iff_isBelow hfile).1 hfrom
      exact (ho.modules module hm number hb).imp_right Or.inr

/-- Where programs put nothing on the search path, a module from a file in a working area is in the
area of a host that runs with an entry module. Hosts leave it so (`World.IsQuiet.act`). -/
theorem History.owns_of_isQuiet (h : History past group)
    (hq : ∀ earlier ∈ past, earlier.world.IsQuiet) {module : LoadedModule}
    (hm : module ∈ group.world.modules) {number : ℕ}
    (hb : module.isBelow (areaOf number) = true) : Owns group.members number := by
  refine (h.isOwned.modules module hm number hb).resolve_right ?_
  rintro ⟨earlier, he, -, hexposes⟩
  exact (hq earlier he).not_exposes number hexposes

/-- A world with a web application that imports a module beside it. -/
def storing : World where
  files := [
    (["cwd"], .directory),
    (["cwd", "web"], .directory),
    (["cwd", "web", "app.py"],
      .module ⟨[.importModule "store"], .defines [("app", .application "ok")]⟩),
    (["cwd", "web", "store.py"], .module ⟨[], .defines []⟩)]

lemma storing_untouched : storing.Untouched := by
  refine ⟨.of_currentLocation (fun pair hpair => ?_) rfl, rfl, fun module hm => (by cases hm)⟩
  simp only [storing, List.mem_cons, List.not_mem_nil, or_false] at hpair
  rcases hpair with rfl | rfl | rfl | rfl <;> simp [World.currentLocation]

/-- A host that runs the application has registered two modules, both in its own working area: one
is its entry module, and a stop forgets both. -/
theorem storing_modules_owned :
    let host : AppHost := { entryModule := "app", appName := "app", host := none }
    let started := host.start ⟨0, ["web"]⟩ 8181 storing
    started.world.modules.map (·.name) = [.entry 1, .named "store"] ∧
    (started.world.modules.entries.map (·.source)).Perm [.file (host.entryFile 1)] ∧
    started.self.workingArea = some (areaOf 1) ∧
    (∀ module ∈ started.world.modules,
      module ∉ (started.self.stop started.world).world.modules →
        module.isBelow (areaOf 1) = true) ∧
    (started.self.stop started.world).world.modules.map (·.name) = [] := by
  intro host started
  have hok : started.result = .ok (localUrl 8181) := by
    subst started host
    rfl
  have hstart : host.start ⟨0, ["web"]⟩ 8181 storing =
      ⟨.ok (localUrl 8181), started.self, started.world⟩ := by rw [← hok]
  have hjoin : Step ⟨storing, []⟩ ⟨storing, [⟨host, none⟩]⟩ := .join _ _ _ _ _
  have hrun : some (Run.mk started.world.areas
      (started.world.files.isFile (host.entryFile started.world.areas))) = some ⟨1, true⟩ := by
    decide +kernel
  have hact : Member.Act storing ⟨host, none⟩ ⟨started.self, some ⟨1, true⟩⟩ started.world := by
    rw [← hrun]
    exact .started host _ none _ _ _ _ hstart
  have hstep : Step ⟨storing, [⟨host, none⟩]⟩ ⟨started.world, [⟨started.self, some ⟨1, true⟩⟩]⟩ :=
    .act _ _ [] [] _ _ hact
  have hfile : [Member.mk started.self (some ⟨1, true⟩)].filterMap (·.entryFile?) =
      [host.entryFile 1] := by decide +kernel
  have howners := History.modules_owned (.step (.step (.start _ storing_untouched) hjoin) hstep)
  have hfiles := howners.entries
  rw [hfile, List.map_singleton] at hfiles
  have hforgets := howners.stop ⟨started.self, some ⟨1, true⟩⟩ (List.mem_singleton_self _)
  have harea :=
    howners.areas ⟨started.self, some ⟨1, true⟩⟩ (List.mem_singleton_self _) ⟨1, true⟩ rfl
  dsimp only at hfiles hforgets harea
  refine ⟨by decide +kernel, hfiles, harea, fun module hm hgone => ?_, by decide +kernel⟩
  obtain ⟨run, hsome, hb⟩ := hforgets module hm hgone
  rw [← Option.some.inj hsome] at hb
  exact hb

lemma packaged_untouched : World.Untouched (Fleet.packaged (.application "ok")) := by
  refine ⟨.of_currentLocation (fun pair hpair => ?_) rfl, rfl, fun module hm => (by cases hm)⟩
  simp only [Fleet.packaged, List.mem_cons, List.not_mem_nil, or_false] at hpair
  rcases hpair with rfl | rfl | rfl | rfl <;> simp [World.currentLocation]

lemma exists_history {world : World} (hw : world.Untouched) {entryModule appName : String}
    {name : Option String} {directory : Path} {port : ℤ} (url : String) :
    let host : AppHost := { entryModule := entryModule, appName := appName, host := name }
    let started := host.start directory port world
    let ended := started.self.stop started.world
    started.result = .ok url → ended.result = .ok () →
      ∃ past, History past ⟨ended.world, [⟨ended.self, none⟩]⟩ := by
  intro host started ended hstarted hended
  have hjoin : Step ⟨world, []⟩ ⟨world, [⟨host, none⟩]⟩ := .join _ _ _ _ _
  have hstart : host.start directory port world = ⟨.ok url, started.self, started.world⟩ := by
    rw [← hstarted]
  have hstop : started.self.stop started.world = ⟨.ok (), ended.self, ended.world⟩ := by
    rw [← hended]
  have hrun := Member.Act.started host started.self none directory port url started.world hstart
  have hidle := Member.Act.stopped started.self ended.self
    (some ⟨started.world.areas, started.world.files.isFile (host.entryFile started.world.areas)⟩)
    (.ok ()) ended.world hstop fun failure hfailure => by cases hfailure
  exact ⟨_, .step (.step (.step (.start world hw) hjoin) (.act _ _ [] [] _ _ hrun))
    (.act _ _ [] [] _ _ hidle)⟩

/-- A host that runs an application with a package without a file stops well, and the package stays
registered: it came from the working area of a host that runs no longer. -/
theorem package_outlives_stop :
    let host : AppHost := { entryModule := "app", appName := "app", host := none }
    let started := host.start ⟨0, ["web"]⟩ 8181 (Fleet.packaged (.application "ok"))
    let ended := started.self.stop started.world
    (∃ past, History past ⟨ended.world, [⟨ended.self, none⟩]⟩) ∧ ended.result = .ok () ∧
    started.self.workingArea = some (areaOf 1) ∧ ¬ Owns [⟨ended.self, none⟩] 1 ∧
    ended.world.modules = [⟨.named "parts", .portions [areaOf 1 ++ ["webapp", "parts"]], []⟩] := by
  refine ⟨exists_history packaged_untouched (localUrl 8181) (by rfl) (by rfl), by rfl,
    by rfl, ?_, by rfl⟩
  rintro ⟨member, hm, hrun⟩
  obtain rfl := List.mem_singleton.1 hm
  cases hrun

end HostGroup

end MockIssuer
