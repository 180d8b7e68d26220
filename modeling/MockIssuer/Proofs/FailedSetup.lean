import MockIssuer.Proofs.CompleteTeardown

/-!
# Set-ups that fail

Wherever a set-up fails, the world has more than before only what the harness then owns and what a
start leaves (`Exceeds`), so that a teardown that succeeds gives back the world from before but for
that (`setup_failed`). The modules that web applications start from are told one by one. A start
leaves what no unloading finds: packages without a file, what an application imported from elsewhere
along the search path, and a working area that something was using.
-/
namespace MockIssuer

/-- Whether a web application starts from a module. -/
def LoadedModule.isEntry (module : LoadedModule) : Bool :=
  match module.name with
  | .entry _ => true
  | .named _ => false

/-- The modules that web applications start from. -/
def ModuleTable.entries (modules : ModuleTable) : ModuleTable :=
  modules.filter (·.isEntry)

namespace World

/-- Whether a start leaves a module registered that it does not succeed with: one that was found
along the search path, or a package without a file. -/
def IsLeft (world : World) (module : LoadedModule) : Prop :=
  world.IsStray module ∨ AppHost.IsPackage world module

lemma IsLeft.exists_name {world : World} {module : LoadedModule} (h : world.IsLeft module) :
    ∃ text, module.name = .named text := by
  rcases h with hstray | ⟨text, _, hn, -⟩
  · exact World.IsFoundIn.exists_name hstray
  · exact ⟨text, hn⟩

lemma IsLeft.isEntry_eq_false {world : World} {module : LoadedModule} (h : world.IsLeft module) :
    module.isEntry = false := by
  obtain ⟨text, hn⟩ := h.exists_name
  simp [LoadedModule.isEntry, hn]

lemma IsLeft.isPackage {world : World} {module : LoadedModule} (h : world.IsLeft module)
    (hpath : world.searchPath = []) : AppHost.IsPackage world module := by
  refine h.resolve_left fun hstray => ?_
  obtain ⟨directory, entry, he, -⟩ := hstray.exists_searched
  rw [hpath] at he
  cases he

/-- What a start that fails leaves of the files: those from before, and the new working area where
something uses it. -/
def FilesLeft (before : World) (files : FileSystem) : Prop :=
  files = before.files ∨
    (before.busyAreas.lookup (AppHost.areaOf (before.areas + 1))).isSome = true ∧
      files.at? (AppHost.areaOf (before.areas + 1)) = some .directory ∧
      files.removeTree (AppHost.areaOf (before.areas + 1)) = before.files

/-- A world has the ports, files and modules of another, but for what a start leaves. Applications
start from none of the modules that are left. -/
structure IsGivenBack (before after : World) : Prop where
  bound : after.bound = before.bound
  files : before.FilesLeft after.files
  entries : after.modules.entries = before.modules.entries
  modules : ∃ left, after.modules = before.modules ++ left ∧
    (∀ module ∈ left, before.IsLeft module) ∧
    (before.searchPath = [] → ∀ module ∈ left, AppHost.IsPackage before module)

lemma isGivenBack_of_modules {before after : World} (left : ModuleTable)
    (hb : after.bound = before.bound) (hf : before.FilesLeft after.files)
    (hm : after.modules = before.modules ++ left) (hl : ∀ module ∈ left, before.IsLeft module) :
    before.IsGivenBack after := by
  refine ⟨hb, hf, ?_, left, hm, hl, fun hpath module hmodule => (hl module hmodule).isPackage hpath⟩
  have hnone : left.filter (·.isEntry) = [] :=
    List.filter_eq_nil_iff.2 fun module hmodule => by simp [(hl module hmodule).isEntry_eq_false]
  rw [hm, ModuleTable.entries, List.filter_append, hnone, List.append_nil, ModuleTable.entries]

end World

namespace AppHost
variable {world after : World} {host : AppHost} {entry : Option ℕ} {ports : List ℕ}

lemma Launched.isLoadedBy_eq_false (h : Launched host world entry ports after) (hs : world.Sound)
    (hn : host.entry = none) : ∀ module ∈ world.modules,
    isLoadedBy entry (some (areaOf (world.areas + 1))) module = false := by
  intro module hm
  rw [← Bool.not_eq_true]
  intro hl
  have hloads : Footprint.loads ⟨entry, some (areaOf (world.areas + 1))⟩ module = true := hl
  rcases Footprint.loads_iff.1 hloads with
    ⟨number, hnumber, hname⟩ | ⟨area, harea, hbelow⟩
  · have hle := hs.entries module hm number hname
    obtain ⟨_, _, ⟨rfl, -, -⟩ | ⟨rfl, -, -⟩⟩ := h.loaded
    · rw [hn] at hnumber
      cases hnumber
    · obtain rfl := Option.mem_some.1 hnumber
      omega
  · obtain rfl := Option.mem_some.1 harea
    have hle := hs.modules module hm _ hbelow
    omega

lemma Launched.filesLeft (h : Launched host world entry ports after) :
    world.FilesLeft (AppHost.filesWithout after (areaOf (world.areas + 1))) := by
  rw [h.filesWithout]
  split
  · next hbusy => exact Or.inr ⟨hbusy, h.area, h.files⟩
  · exact Or.inl rfl

lemma IsAdded.isLoadedBy_or_isLeft {module : LoadedModule} (h : IsAdded world module)
    (entry : Option ℕ) : isLoadedBy entry (some (areaOf (world.areas + 1))) module = true ∨
      world.IsLeft module := by
  have hown (hb : module.isBelow (areaOf (world.areas + 1)) = true) :
      isLoadedBy entry (some (areaOf (world.areas + 1))) module = true := by
    simp [isLoadedBy, hb]
  cases h with
  | entry _ hb => exact Or.inl (hown hb)
  | sibling _ _ hb => exact Or.inl (hown hb)
  | package hpackage => exact Or.inr (Or.inr hpackage)
  | stray hstray => exact Or.inr (Or.inl hstray)

/-- Unloading what a launch has loaded gives back the modules from before, apart from those that are
left. -/
lemma Launched.filter_modules (h : Launched host world entry ports after) (hs : world.Sound)
    (hn : host.entry = none) : ∃ left,
    after.modules.filter (!isLoadedBy entry (some (areaOf (world.areas + 1))) ·) =
        world.modules ++ left ∧ ∀ module ∈ left, world.IsLeft module := by
  obtain ⟨added, hmodules, hadded⟩ := h.modules
  have hkept : world.modules.filter (!isLoadedBy entry (some (areaOf (world.areas + 1))) ·) =
      world.modules :=
    List.filter_eq_self.2 fun module hm => by simp [h.isLoadedBy_eq_false hs hn module hm]
  refine ⟨added.filter (!isLoadedBy entry (some (areaOf (world.areas + 1))) ·), ?_,
    fun module hm => ?_⟩
  · rw [hmodules, List.filter_append, hkept]
  · obtain ⟨hmem, hnot⟩ := List.mem_filter.1 hm
    refine ((hadded module hmem).isLoadedBy_or_isLeft entry).resolve_left fun hloaded => ?_
    rw [hloaded] at hnot
    cases hnot

end AppHost

namespace Harness

/-- A world that has more than another only what a harness owns, apart from what a start leaves. -/
structure Exceeds (harness : Harness) (before after : World) : Prop where
  ports : after.bound = before.bound ++ harness.heldPorts
  fresh : ∀ port ∈ harness.heldPorts, port ∉ before.bound
  files : ∀ area, harness.workingArea? = some area → after.files.removeTree area = before.files
  unowned : harness.workingArea? = none → before.FilesLeft after.files
  area : ∀ area, harness.workingArea? = some area → after.files.at? area = some .directory
  modules : ∃ added, after.modules = before.modules ++ added ∧
    ∀ module ∈ added, harness.loads module = true ∨ before.IsLeft module
  apart : ∀ module ∈ before.modules, harness.loads module = false

namespace Exceeds
variable {harness : Harness} {before after last : World}

lemma sameState (h : harness.Exceeds before after) (hs : after.SameState last) :
    harness.Exceeds before last := by
  obtain ⟨log, rfl⟩ := hs
  exact ⟨h.ports, h.fresh, h.files, h.unowned, h.area, h.modules, h.apart⟩

lemma of_sameState (h : harness.Exceeds before after) {first : World}
    (hs : first.SameState before) : harness.Exceeds first after := by
  obtain ⟨log, rfl⟩ := hs
  exact ⟨h.ports, h.fresh, h.files, h.unowned, h.area, h.modules, h.apart⟩

lemma refl (hh : harness.appHost = none) (hm : harness.mockServer = none) (before : World) :
    harness.Exceeds before before := by
  have hports : harness.heldPorts = [] := by simp [heldPorts, mockPorts, hh, hm]
  have harea : harness.workingArea? = none := by simp [workingArea?, hh]
  refine ⟨by rw [hports, List.append_nil], fun port hport => ?_, fun area ha => ?_,
    fun _ => Or.inl rfl, fun area ha => ?_, ⟨[], (List.append_nil _).symm, by simp⟩,
    fun module _ => by simp [loads, hh]⟩
  · rw [hports] at hport
    cases hport
  · rw [harea] at ha
    cases ha
  · rw [harea] at ha
    cases ha

/-- The modules of the harness are all that applications start from beside those from before. -/
lemma entries (h : harness.Exceeds before after) :
    after.modules.entries =
      before.modules.entries ++ after.modules.entries.filter (harness.loads ·) := by
  obtain ⟨added, hmodules, hadded⟩ := h.modules
  have hbefore : before.modules.entries.filter (harness.loads ·) = [] :=
    List.filter_eq_nil_iff.2 fun module hm => by
      simp [h.apart module (List.mem_of_mem_filter hm)]
  have hnew : (ModuleTable.entries added).filter (harness.loads ·) = ModuleTable.entries added := by
    refine List.filter_eq_self.2 fun module hm => ?_
    obtain ⟨hmem, hentry⟩ := List.mem_filter.1 hm
    refine (hadded module hmem).resolve_right fun hleft => ?_
    rw [hleft.isEntry_eq_false] at hentry
    cases hentry
  unfold ModuleTable.entries at hbefore hnew ⊢
  rw [hmodules, List.filter_append, List.filter_append, hbefore, hnew, List.nil_append]

lemma cleared (h : harness.Exceeds before after)
    (hr : ∀ host area, harness.appHost = some host → host.workingArea = some area →
      AppHost.removalFault? after area = none) : before.IsGivenBack (harness.cleared after) := by
  obtain ⟨added, hmodules, hadded⟩ := h.modules
  refine World.isGivenBack_of_modules (added.filter (!harness.loads ·)) ?_ ?_ ?_ fun module hm => ?_
  · rw [cleared_bound, h.ports, List.filter_append]
    have hkept : before.bound.filter (· ∉ harness.heldPorts) = before.bound :=
      List.filter_eq_self.2 fun port hport =>
        decide_eq_true fun hheld => h.fresh port hheld hport
    have hgone : harness.heldPorts.filter (· ∉ harness.heldPorts) = [] := by
      simp [List.filter_eq_nil_iff]
    rw [hkept, hgone, List.append_nil]
  · rw [cleared_files]
    cases ha : harness.workingArea? with
    | none =>
      have hkept : (harness.appHost.map (·.clearedFiles after)).getD after.files = after.files := by
        cases hh : harness.appHost with
        | none => rfl
        | some host =>
          rw [workingArea?, hh, Option.bind_some] at ha
          simp only [Option.map_some, Option.getD_some, AppHost.clearedFiles, ha]
      rw [hkept]
      exact h.unowned ha
    | some area =>
      obtain ⟨host, hh, harea⟩ := workingArea?_eq_some ha
      have hremoved := AppHost.filesWithout_of_none (hr host area hh harea)
      refine Or.inl ?_
      rw [← h.files area ha, hh, Option.map_some, Option.getD_some]
      simp only [AppHost.clearedFiles, harea, hremoved]
  · rw [cleared_modules, hmodules, List.filter_append]
    have hkept : before.modules.filter (!harness.loads ·) = before.modules :=
      List.filter_eq_self.2 fun module hm => by simp [h.apart module hm]
    rw [hkept]
  · obtain ⟨hmem, hnot⟩ := List.mem_filter.1 hm
    refine (hadded module hmem).resolve_left fun hl => ?_
    rw [hl] at hnot
    cases hnot

end Exceeds

lemma AppStarted.exceeds {harness : Harness} {world after : World} {appHost : Option AppHost}
    (hs : world.Sound) (hh : harness.appHost = none) (hm : harness.mockServer = none)
    (h : harness.AppStarted world appHost after) :
    { harness with appHost := appHost }.Exceeds world after := by
  rcases h with ⟨-, rfl, rfl⟩ | ⟨directory, url, host, -, hstart, rfl⟩
  · exact .refl hh hm _
  rcases AppHost.start_cases hs newHost directory harness.config.applicationServerPort with
    ⟨_, _, -, hrefused, -⟩ | ⟨-, entry, ports, launched, hl, hcases⟩
  · rw [hrefused] at hstart
    cases hstart
  rcases hcases with ⟨_, _, -, -, hfailed, -⟩ | ⟨_, -, -, haborted⟩ |
    ⟨url', hosted, server, number, rfl, hheld, hstarted⟩
  · rw [hfailed] at hstart
    cases hstart
  · rw [haborted] at hstart
    cases hstart
  · rw [hstarted] at hstart
    injection hstart with _ hself hworld
    subst hself hworld
    have hports : heldPorts { harness with appHost := some { newHost with
        server := some server
        hosted := hosted
        workingArea := some (AppHost.areaOf (world.areas + 1))
        entry := entry
        boundPort := some number } } = [number] := by
      simp [heldPorts, mockPorts, hm, AppHost.heldPorts, hheld]
    obtain ⟨added, hmodules, hadded⟩ := hl.modules
    refine ⟨by rw [hports, hl.bound], fun port hport => ?_, fun area ha => ?_,
      fun ha => (by cases ha), fun area ha => ?_,
      ⟨added, hmodules, fun module hmodule => ?_⟩, hl.isLoadedBy_eq_false hs rfl⟩
    · rw [hports] at hport
      exact hl.fresh port hport
    · obtain rfl := Option.some.inj ha
      exact hl.files
    · obtain rfl := Option.some.inj ha
      exact hl.area
    · exact (hadded module hmodule).isLoadedBy_or_isLeft entry

/-- Where a launch is taken back, only what a start leaves is left of it. -/
lemma exceeds_of_undone {harness : Harness} {world launched : World} {entry : Option ℕ}
    (hs : world.Sound) (hh : harness.appHost = none) (hm : harness.mockServer = none)
    (hl : AppHost.Launched newHost world entry [] launched) :
    harness.Exceeds world { launched with
      files := AppHost.filesWithout launched (AppHost.areaOf (world.areas + 1))
      modules := launched.modules.filter
        (!AppHost.isLoadedBy entry (some (AppHost.areaOf (world.areas + 1))) ·) } := by
  have hnothing := Exceeds.refl hh hm world
  obtain ⟨left, hmodules, hleft⟩ := hl.filter_modules hs rfl
  have harea : harness.workingArea? = none := by simp [workingArea?, hh]
  refine ⟨?_, hnothing.fresh, fun area ha => ?_, fun _ => hl.filesLeft, fun area ha => ?_,
    ⟨left, hmodules, fun module hm => Or.inr (hleft module hm)⟩, hnothing.apart⟩
  · rw [← hnothing.ports]
    simpa using hl.bound
  · rw [harea] at ha
    cases ha
  · rw [harea] at ha
    cases ha

/-- A start that fails and is not broken off leaves nothing else. -/
lemma exceeds_of_start_error {harness : Harness} {world after : World} {host : AppHost}
    {directory : Path} {port : ℤ} {failure : Failure} (hs : world.Sound)
    (hh : harness.appHost = none) (hm : harness.mockServer = none)
    (h : newHost.start directory port world = ⟨.error failure, host, after⟩)
    (ho : failure.isOrdinary = true) : harness.Exceeds world after := by
  rcases AppHost.start_cases hs newHost directory port with
    ⟨_, last, -, hrefused, hsame⟩ | ⟨-, entry, ports, launched, hl, hcases⟩
  · rw [hrefused] at h
    injection h with _ _ hworld
    subst hworld
    exact (Exceeds.refl hh hm world).sameState hsame
  rcases hcases with ⟨_, last, -, rfl, hfailed, hsame⟩ | ⟨_, hbroken, -, haborted⟩ |
    ⟨_, _, _, _, -, -, hstarted⟩
  · rw [hfailed] at h
    injection h with _ _ hworld
    subst hworld
    exact (exceeds_of_undone hs hh hm hl).sameState hsame
  · rw [haborted] at h
    injection h with hresult
    obtain rfl := Except.error.inj hresult
    rw [hbroken] at ho
    cases ho
  · rw [hstarted] at h
    cases h

/-- Wherever the steps of a set-up fail, what there is more than before is owned. -/
lemma exceeds_of_startAll_error (harness : Harness) {left : Harness} {world after : World}
    {failure : Failure} (hs : world.Sound) (hh : harness.appHost = none)
    (hm : harness.mockServer = none)
    (h : harness.startAll world = ⟨.error failure, left, after⟩)
    (ho : failure.isOrdinary = true) : left.Exceeds world after := by
  rcases startAll_cases harness world with
    ⟨directory, _, host, last, -, hstart, hall⟩ | ⟨appHost, first, happ, hcases⟩
  · rw [hall] at h
    injection h with hresult hself hworld
    obtain rfl := Except.error.inj hresult
    subst hself hworld
    exact exceeds_of_start_error hs hh hm hstart ho
  have hfirst := happ.exceeds hs hh hm
  rcases hcases with ⟨_, -, hall⟩ | ⟨port, thread, bound, second, hbind, hsame, hcases⟩
  · rw [hall] at h
    injection h with _ hself hworld
    subst hself hworld
    exact hfirst
  rcases hcases with ⟨_, endpoints, hall⟩ | ⟨_, _, _, -, -, -, hall⟩
  · rw [hall] at h
    injection h with _ hself hworld
    subst hself hworld
    obtain ⟨hfresh, next, rfl⟩ := World.bind_ok hbind
    have hheld : heldPorts { harness with
        appHost := appHost
        mockServer := some (harness.startedMock first port thread)
        endpoints := endpoints } = heldPorts { harness with appHost := appHost } ++ [port] := by
      simp only [heldPorts, mockPorts, hm, Option.map_none, Option.getD_none, List.append_nil]
      rfl
    obtain ⟨log, rfl⟩ := hsame
    refine ⟨?_, fun other ho => ?_, hfirst.files, hfirst.unowned, hfirst.area, hfirst.modules,
      hfirst.apart⟩
    · rw [hheld, ← List.append_assoc, ← hfirst.ports]
    · rw [hheld] at ho
      rcases List.mem_append.1 ho with hown | hnew
      · exact hfirst.fresh other hown
      · obtain rfl := List.mem_singleton.1 hnew
        rw [hfirst.ports] at hfresh
        exact fun hbound => hfresh (List.mem_append_left _ hbound)
  · rw [hall] at h
    cases h

/-- A set-up that fails and is not broken off: the harness has failed with the error of its steps,
and what there is more than before is owned. -/
lemma exceeds_of_setup_error {harness : Harness} {world : World} {failure : Failure}
    (hc : harness.Consistent) (hs : world.Sound) (hp : harness.phase = .notStarted)
    (he : (harness.setup world).result = .error failure) (ho : failure.isOrdinary = true) :
    (∃ begun, world.SameState begun ∧
      ({ harness with phase := .starting }.startAll begun).result = .error failure) ∧
    (harness.setup world).self.phase = .failed ∧
    (harness.setup world).self.Exceeds world (harness.setup world).world := by
  obtain ⟨hm, hh⟩ := hc.idle (Or.inl hp)
  rcases setup_cases harness world with ⟨hne, -⟩ | ⟨-, begun, hbegun, hcases⟩
  · exact absurd hp hne
  rcases hcases with ⟨_, _, _, _, -, hok, -⟩ |
    ⟨cause, left, last, last', hcause, hall, hsetup, hsame⟩ |
    ⟨cause, left, last, hcause, -, hsetup⟩
  · rw [hok] at he
    cases he
  · rw [hsetup] at he ⊢
    obtain rfl := Except.error.inj he
    have hsound : begun.Sound := by
      obtain ⟨log, rfl⟩ := hbegun
      exact ⟨hs.files, hs.modules, hs.entries⟩
    have hexceeds := exceeds_of_startAll_error { harness with phase := .starting } hsound hh hm
      hall hcause
    have hlast := (hexceeds.sameState hsame).of_sameState hbegun
    exact ⟨⟨begun, hbegun, by rw [hall]⟩, rfl, hlast.ports, hlast.fresh, hlast.files,
      hlast.unowned, hlast.area, hlast.modules, hlast.apart⟩
  · rw [hsetup] at he
    obtain rfl := Except.error.inj he
    rw [ho] at hcause
    cases hcause

lemma teardown_of_ok {harness : Harness} {world : World} (hp : harness.phase = .failed)
    (h : (harness.teardown world).result = .ok ()) :
    (harness.teardown world).self.phase = .stopped ∧
      (harness.cleared world).SameState (harness.teardown world).world ∧
      ∀ host area, harness.appHost = some host → host.workingArea = some area →
        AppHost.removalFault? world area = none := by
  rcases teardown_cases harness world with ⟨hidle, -⟩ | ⟨-, hm, hh, htear⟩ | ⟨-, -, htear⟩
  · rw [hp] at hidle
    rcases hidle with hidle | hidle <;> cases hidle
  · rw [htear, cleared_eq_self hm hh]
    refine ⟨rfl, .refl world, fun host area ho => ?_⟩
    rw [hh] at ho
    cases ho
  · rw [htear] at h ⊢
    obtain ⟨hself, hcleared, hremoved⟩ := stopAll_of_ok h
    rw [hself]
    exact ⟨rfl, hcleared, hremoved⟩

lemma teardown_owns_nothing {harness : Harness} (hc : harness.Consistent) (world : World) :
    (harness.teardown world).self.mockServer = none ∧
      (harness.teardown world).self.appHost = none ∧
      (harness.teardown world).self.binding = none := by
  rcases teardown_cases harness world with ⟨hidle, ht⟩ | ⟨hp, hm, hh, ht⟩ | ⟨-, -, ht⟩
  · rw [ht]
    obtain ⟨hm, hh⟩ := hc.idle hidle
    refine ⟨hm, hh, hc.binding_eq_none fun hr => ?_⟩
    rw [hr] at hidle
    rcases hidle with hidle | hidle <;> cases hidle
  · rw [ht]
    exact ⟨hm, hh, hc.binding_eq_none (by rw [hp]; decide)⟩
  · rw [ht]
    rcases stopAll_self { harness with phase := .stopping } world with ⟨-, hs⟩ | ⟨-, hs⟩
    · rw [hs]
      exact ⟨rfl, rfl, rfl⟩
    · rw [hs]
      exact ⟨rfl, rfl, rfl⟩

/-- What comes of a set-up that fails. The failure is that of the step that failed, the harness has
failed and makes no tokens, and the world has more than before only what the harness owns and what a
start leaves; applications start from none of that. A teardown that succeeds gives back the world
from before. Entering instead of setting up fails in the same way and leaves a harness that owns
nothing. -/
structure FailsSetup (harness : Harness) (world : World) (failure : Failure) : Prop where
  raised : ∃ begun, world.SameState begun ∧
    ({ harness with phase := .starting }.startAll begun).result = .error failure
  failed : (harness.setup world).self.phase = .failed
  noGenerator : ∀ later, (harness.setup world).self.tokenBuilder later = .error (.noGenerator .failed)
  exceeds : (harness.setup world).self.Exceeds world (harness.setup world).world
  entries : (harness.setup world).world.modules.entries = world.modules.entries ++
    (harness.setup world).world.modules.entries.filter ((harness.setup world).self.loads ·)
  givesBack : ∀ left after, (harness.setup world).self.teardown (harness.setup world).world =
    ⟨.ok (), left, after⟩ → left.phase = .stopped ∧ world.IsGivenBack after
  entered : (harness.enter world).result = .error failure
  ownsNothing : (harness.enter world).self.mockServer = none ∧
    (harness.enter world).self.appHost = none ∧ (harness.enter world).self.binding = none

end Harness

namespace Fleet

/-- A set-up of a new harness that fails, in any fleet, unless the application ended the process. -/
theorem setup_failed {fleet : Fleet} (hf : fleet.Reachable) {harness : Harness}
    (hmem : .harness harness ∈ fleet.parties) (hp : harness.phase = .notStarted)
    {failure : Failure} (he : (harness.setup fleet.world).result = .error failure)
    (ho : failure.isOrdinary = true) : harness.FailsSetup fleet.world failure := by
  have hc : harness.Consistent := hf.sound.harnesses harness hmem
  obtain ⟨hsteps, hfailed, hexceeds⟩ :=
    Harness.exceeds_of_setup_error hc hf.sound.world hp he ho
  obtain ⟨hentered, hself⟩ : (harness.enter fleet.world).result = .error failure ∧
      (harness.enter fleet.world).self =
        ((harness.setup fleet.world).self.teardown (harness.setup fleet.world).world).self := by
    rcases Harness.enter_cases harness fleet.world with ⟨-, hbroken⟩ |
      ⟨cause, hcause, -, hresult, hself, -⟩
    · rw [hbroken failure he] at ho
      cases ho
    · obtain rfl : cause = failure := Except.error.inj (hcause.symm.trans he)
      exact ⟨hresult, hself⟩
  refine ⟨hsteps, hfailed, fun later => ?_, hexceeds, hexceeds.entries, fun left after htear => ?_,
    hentered, ?_⟩
  · rw [← hfailed]
    exact Harness.tokenBuilder_of_ne (by rw [hfailed]; decide) later
  · obtain ⟨hstopped, hcleared, hremoved⟩ := Harness.teardown_of_ok hfailed (by rw [htear])
    have hgiven := hexceeds.cleared hremoved
    rw [htear] at hstopped hcleared
    obtain ⟨log, rfl⟩ := hcleared
    exact ⟨hstopped, hgiven.bound, hgiven.files, hgiven.entries, hgiven.modules⟩
  · rw [hself]
    exact Harness.teardown_owns_nothing (hc.setup fleet.world) _

/-- Entering a harness for a service without endpoints fails for this reason, although its mock
server never finishes and so cannot be cleaned up. -/
theorem unsupported_enter :
    let harness : Harness := { Harness.fresh with
      config := { Harness.fresh.config with service := .ias } }
    (harness.enter hanging).result = .error (.unsupportedService .ias) ∧
    (harness.enter hanging).self.mockServer = none ∧
    (harness.setup hanging).world.bound = [50000] := by
  intro harness
  have hnew : Harness.new (.service .ias) { hanging with generated := [] } =
      (.ok harness, hanging) := by rfl
  have hsound : World.Sound { hanging with generated := [] } :=
    hanging_sound.mono le_rfl le_rfl (fun _ h => h) fun _ h => h
  have hjoin : Relation.ReflTransGen Step ⟨{ hanging with generated := [] }, []⟩
      ⟨hanging, [.harness harness]⟩ := .single (.join _ _ [] _ (.harness _ _ _ hnew))
  have he : (harness.setup hanging).result = .error (.unsupportedService .ias) := by
    subst harness
    rfl
  have hordinary : (Failure.unsupportedService .ias).isOrdinary = true := by decide +kernel
  have hfails := setup_failed ⟨_, hsound, hjoin⟩ (List.mem_singleton_self _) rfl he hordinary
  have hports : (harness.setup hanging).self.heldPorts = [50000] := by
    subst harness
    rfl
  refine ⟨hfails.entered, hfails.ownsNothing.1, ?_⟩
  rw [hfails.exceeds.ports, hports]
  rfl

lemma setup_packaged : ∃ log, serving.setup (packaged .absent) =
    ⟨.error (.missingApplication "<TMP>/security-harness-1/webapp/app.py" "app"),
      { serving with phase := .failed },
      { packaged .absent with
        areas := 1
        entries := 1
        modules := [⟨.named "parts", .portions [AppHost.areaOf 1 ++ ["webapp", "parts"]], []⟩]
        log := log }⟩ :=
  ⟨_, by rfl⟩

/-- A directory that the application has imported stays registered although the application is
missing, so that the set-up fails, and although the teardown succeeds. -/
theorem package_outlives_failed_setup :
    let failed := serving.setup (packaged .absent)
    let ended := failed.self.teardown failed.world
    failed.result = .error (.missingApplication
      "<TMP>/security-harness-1/webapp/app.py" "app") ∧
    failed.self.appHost = none ∧
    ended.result = .ok () ∧ ended.self.phase = .stopped ∧
    ended.world.files = (packaged .absent).files ∧
    ended.world.modules =
      [⟨.named "parts", .portions [AppHost.areaOf 1 ++ ["webapp", "parts"]], []⟩] := by
  obtain ⟨log, hsetup⟩ := setup_packaged
  rw [hsetup]
  exact ⟨rfl, rfl, rfl, rfl, rfl, rfl⟩

end Fleet

end MockIssuer
