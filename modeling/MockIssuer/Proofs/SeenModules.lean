import MockIssuer.Proofs.EntryModules

/-!
# Which modules an application sees

Modules are cached under plain names in one table for all hosts, and the search path is shared too.
An application that imports a module while it is loaded sees whatever is registered under the name,
and a copy of its own only if there is nothing. So it sees a module from the working area of another
host just if one is registered under this name when the start begins, or the search path that was
left behind leads to one (`seen_isForeign_iff`). What is seen is what the application answers with
(`AppHost.start_application`).
-/
namespace MockIssuer

lemma ModuleTable.mem_of_lookup_define {modules : ModuleTable} {name : ModuleName}
    {names : List (String × Bound)} {text : String} {bound : Bound}
    (h : ((modules.define name names).find? name).bind (·.names.lookup text) = some bound) :
    (text, bound) ∈ names := by
  obtain ⟨module, hfind, hlookup⟩ := Option.bind_eq_some_iff.1 h
  obtain ⟨old, -, rfl⟩ := List.mem_map.1 (List.mem_of_find?_eq_some hfind)
  by_cases hold : old.name = name
  · rw [if_pos hold] at hlookup
    obtain ⟨front, back, hnames, -⟩ := List.lookup_eq_some_iff.1 hlookup
    simp only at hnames
    rw [hnames]
    simp
  · have hname := List.find?_some hfind
    rw [if_neg hold] at hname
    exact absurd (by simpa using hname) hold

namespace World

lemma bindName_application {names : List (String × Definition)} {name text : String}
    {values imported : List (Option Json)}
    (h : (name, Bound.application text imported) ∈ names.map (bindName values)) :
    imported = values := by
  obtain ⟨⟨_, definition⟩, -, hbound⟩ := List.mem_map.1 h
  cases definition with
  | application other => exact (Bound.application.inj (Prod.mk.inj hbound).2).2.symm
  | absent => cases hbound
  | value _ => cases hbound

mutual

/-- What the rest of a program in a directory sees under the names that it imports, in order, each
behind what the import sees in turn. -/
def stepsSeen (fuel : Nat) (world : World) (directory : Location) (steps : List LoadStep) :
    List (String × Option LoadedModule) :=
  match fuel, steps with
  | 0, _ => []
  | _, [] => []
  | fuel + 1, .importModule name :: rest =>
    importSeen fuel world name ++
      match importModule fuel world name with
      | (.error _, _) => []
      | (.ok _, world) =>
        (name, world.modules.find? (.named name)) :: stepsSeen fuel world directory rest
  | fuel + 1, .leavePath :: rest => stepsSeen fuel (world.leavePath directory) directory rest
  | fuel + 1, .enterPath position :: rest =>
    stepsSeen fuel (world.enterPath position directory) directory rest

/-- What is seen while a module is imported. -/
def importSeen (fuel : Nat) (world : World) (name : String) : List (String × Option LoadedModule) :=
  match fuel, world.modules.find? (.named name), world.findModule? name with
  | fuel + 1, none, some (.file file) =>
    stepsSeen fuel { world with modules := world.modules.register ⟨.named name, .file file, []⟩ }
      file.dropLast (world.files.program file).steps
  | _, _, _ => []

end

/-- What is seen while an entry module is loaded. -/
def entrySeen (world : World) (file : Location) : List (String × Option LoadedModule) :=
  let number := world.entries + 1
  let registered :=
    { world with
      entries := number
      modules := world.modules.register ⟨.entry number, .file file, []⟩ }
  stepsSeen world.loadFuel (registered.enterPath 0 file.dropLast) file.dropLast
    (world.files.program file).steps

/-- The values of what was seen. -/
def valuesOf (seen : List (String × Option LoadedModule)) : List (Option Json) :=
  seen.map fun pair => pair.2.bind (·.value?)

lemma importModule_value {fuel : ℕ} {world left : World} {name : String} {value : Option Json}
    (h : importModule fuel world name = (.ok value, left)) :
    value = (left.modules.find? (.named name)).bind (·.value?) := by
  unfold importModule at h
  split at h
  · cases h
  · next module _ _ hmodule =>
    obtain ⟨hvalue, rfl⟩ := Prod.mk.inj h
    rw [hmodule]
    exact (Except.ok.inj hvalue).symm
  · cases h
  · next places hmodule _ =>
    obtain ⟨hvalue, rfl⟩ := Prod.mk.inj h
    unfold ModuleTable.find? at hmodule
    simp only [ModuleTable.find?, ModuleTable.register, List.find?_append, hmodule]
    simp [← Except.ok.inj hvalue, LoadedModule.value?]
  · simp only at h
    split at h
    · cases h
    · obtain ⟨hvalue, rfl⟩ := Prod.mk.inj h
      exact (Except.ok.inj hvalue).symm

lemma runSteps_ok {fuel : ℕ} {world after : World} {module : ModuleName} {directory : Location}
    {ending : Ending} {imported : List (Option Json)} {steps : List LoadStep}
    (h : runSteps fuel world module directory ending imported steps = (.ok (), after)) :
    ∃ (names : List (String × Definition)) (more : List (Option Json)) (last : World),
      ending = .defines names ∧ more.Sublist (valuesOf (stepsSeen fuel world directory steps)) ∧
      after = { last with
        modules := last.modules.define module (names.map (bindName (imported ++ more))) } := by
  induction fuel generalizing world imported steps with
  | zero =>
    rw [runSteps] at h
    cases h
  | succ fuel ih =>
    cases steps with
    | nil =>
      rw [runSteps] at h
      · cases ending with
        | raises family message => cases h
        | defines names =>
          obtain ⟨-, rfl⟩ := Prod.mk.inj h
          exact ⟨names, [], world, rfl, List.nil_sublist _, by rw [List.append_nil]⟩
      · simp
    | cons step rest =>
      cases step with
      | importModule name =>
        rw [runSteps] at h
        rw [stepsSeen]
        rcases hi : importModule fuel world name with ⟨failure | value, left⟩
        · rw [hi] at h
          cases h
        · rw [hi] at h
          obtain ⟨names, more, last, hending, hmore, hafter⟩ := ih h
          rw [importModule_value hi] at hafter
          refine ⟨names, (left.modules.find? (.named name)).bind (·.value?) :: more, last, hending,
            ?_, by rw [hafter, List.append_assoc]; rfl⟩
          rw [valuesOf, List.map_append]
          exact (hmore.cons_cons _).trans (List.sublist_append_right _ _)
      | leavePath =>
        rw [runSteps] at h
        rw [stepsSeen]
        exact ih h
      | enterPath position =>
        rw [runSteps] at h
        rw [stepsSeen]
        exact ih h

lemma loadEntry_application {world : World} {file : Location} {appName text : String}
    {imported : List (Option Json)} (hok : (world.loadEntry file).2.1 = .ok ())
    (h : ((world.loadEntry file).2.2.modules.find? (.entry (world.entries + 1))).bind
      (·.names.lookup appName) = some (.application text imported)) :
    imported.Sublist (valuesOf (world.entrySeen file)) := by
  unfold loadEntry at hok h
  unfold entrySeen
  simp only at hok h ⊢
  set registered : World := enterPath { world with
    entries := world.entries + 1
    modules := world.modules.register ⟨.entry (world.entries + 1), .file file, []⟩ } 0 file.dropLast
  rcases hr : runSteps world.loadFuel registered (.entry (world.entries + 1)) file.dropLast
    (world.files.program file).ending [] (world.files.program file).steps with ⟨result, after⟩
  rw [hr] at hok h
  obtain rfl : result = .ok () := hok
  obtain ⟨names, more, last, -, hmore, rfl⟩ := runSteps_ok hr
  obtain rfl := bindName_application (ModuleTable.mem_of_lookup_define h)
  exact hmore

section Seen
variable (before : World) (allowed : ModuleName → ModuleSource → Prop)
  (searched : Location → Prop)

/-- What is registered under a name at some time in the course of loading. -/
def IsSeen (pair : String × Option LoadedModule) : Prop :=
  ∃ left, IsLoading before allowed searched left ∧ left.modules.find? (.named pair.1) = pair.2

/-- What programs see that run with some fuel is registered in the course of loading. -/
def StepsSee (fuel : ℕ) : Prop :=
  ∀ world directory steps, IsLoading before allowed searched world → searched directory →
    ∀ pair ∈ stepsSeen fuel world directory steps, IsSeen before allowed searched pair

/-- What imports see with some fuel is registered in the course of loading. -/
def ImportsSee (fuel : ℕ) : Prop :=
  ∀ world name, IsLoading before allowed searched world →
    ∀ pair ∈ importSeen fuel world name, IsSeen before allowed searched pair

variable {before allowed searched} {fuel : ℕ}

lemma stepsSee_succ (hsteps : StepsSee before allowed searched fuel)
    (himports : ImportsSee before allowed searched fuel)
    (hloads : IsLoading.Imports before allowed searched fuel) :
    StepsSee before allowed searched (fuel + 1) := by
  intro world directory steps h hd pair hpair
  match steps with
  | [] => simp [stepsSeen] at hpair
  | .importModule name :: rest =>
    rw [stepsSeen, List.mem_append] at hpair
    rcases hpair with hnested | hpair
    · exact himports world name h pair hnested
    have hnext := hloads world name h
    rcases hi : importModule fuel world name with ⟨failure | value, left⟩
    · rw [hi] at hpair
      cases hpair
    · rw [hi] at hpair hnext
      rcases List.mem_cons.1 hpair with rfl | hrest
      · exact ⟨left, hnext, rfl⟩
      · exact hsteps left directory rest hnext hd pair hrest
  | .leavePath :: rest =>
    rw [stepsSeen] at hpair
    exact hsteps _ directory rest (h.leavePath directory) hd pair hpair
  | .enterPath position :: rest =>
    rw [stepsSeen] at hpair
    exact hsteps _ directory rest (h.enterPath position hd) hd pair hpair

lemma importsSee_succ (hsteps : StepsSee before allowed searched fuel)
    (hbelow : ∀ directory name, searched directory → searched (directory ++ [name]))
    (hallowed : ∀ name source, IsFoundIn before.files searched name source → allowed name source) :
    ImportsSee before allowed searched (fuel + 1) := by
  intro world name h pair hpair
  unfold importSeen at hpair
  split at hpair
  · next _ _ _ left file hfuel hmodule hfound =>
    obtain rfl : fuel = left := Nat.succ.inj hfuel
    obtain ⟨hfiles, hsearched, -⟩ := h.parts
    exact hsteps _ file.dropLast _ (h.register ⟨.named name, .file file, []⟩
      (hallowed _ _ (IsLoading.isFoundIn_of_findModule? hfiles hsearched hfound)))
      (IsLoading.searched_of_findModule? hsearched hbelow hfound) pair hpair
  · cases hpair

/-- Whatever is seen in the course of loading is registered then. Programs and imports call each
other with less fuel, so the induction is over both at once. -/
lemma stepsSee_and_importsSee
    (hbelow : ∀ directory name, searched directory → searched (directory ++ [name]))
    (hallowed : ∀ name source, IsFoundIn before.files searched name source → allowed name source)
    (fuel : ℕ) :
    StepsSee before allowed searched fuel ∧ ImportsSee before allowed searched fuel := by
  induction fuel with
  | zero =>
    constructor
    · intro world directory steps _ _ pair hpair
      rw [stepsSeen] at hpair
      cases hpair
    · intro world name _ pair hpair
      rw [importSeen] at hpair
      · cases hpair
      · simp
  | succ fuel ih =>
    obtain ⟨hsteps, himports⟩ := ih
    exact ⟨stepsSee_succ hsteps himports (IsLoading.runs_and_imports hbelow hallowed fuel).2,
      importsSee_succ hsteps hbelow hallowed⟩

end Seen

/-- A module that is seen while an entry module is loaded is the one that was registered under the
name before; if there was none, it was found next to the entry module or along the search path. -/
lemma entrySeen_cases {world : World} {file : Location} {name : String} {seen : LoadedModule}
    (h : (name, some seen) ∈ world.entrySeen file) :
    (∀ old, world.modules.find? (.named name) = some old → seen = old) ∧
    (world.modules.find? (.named name) = none →
      seen.name = .named name ∧ world.IsLoadedFrom file seen.name seen.source) := by
  have hbelow (directory : Location) (name : String) (hd : world.Reaches file directory) :
      world.Reaches file (directory ++ [name]) := hd.append name
  obtain ⟨hsteps, -⟩ :=
    stepsSee_and_importsSee hbelow (fun _ _ hfound => Or.inr hfound) world.loadFuel
  obtain ⟨left, ⟨added, path, rfl, hadded, -⟩, hfind⟩ :=
    hsteps _ file.dropLast _ (world.isLoading_registered file) (Or.inl List.prefix_rfl) _ h
  simp only [ModuleTable.find?, List.find?_append] at hfind
  constructor
  · intro old hold
    rw [ModuleTable.find?] at hold
    rw [hold, Option.some_or] at hfind
    exact (Option.some.inj hfind).symm
  · intro hnone
    rw [ModuleTable.find?] at hnone
    rw [hnone, Option.none_or] at hfind
    refine ⟨by simpa using List.find?_some hfind, hadded seen (List.mem_of_find?_eq_some hfind)⟩

end World

/-- A module that came from a working area that there is already. -/
def LoadedModule.IsForeign (world : World) (module : LoadedModule) : Prop :=
  ∃ number ≤ world.areas, module.isFrom (AppHost.areaOf number) = true

/-- The search path leads to all that a stray module came from. -/
lemma World.IsStray.isSearched {world : World} {module : LoadedModule} (h : world.IsStray module)
    {place : Location} (hp : place ∈ module.places) : world.IsSearched place := by
  have hextend {directory other : Location} (hs : world.IsSearched directory)
      (hd : directory <+: other) : world.IsSearched other :=
    hs.imp fun _ hentry => hentry.imp_right fun hprefix => hprefix.trans hd
  unfold World.IsStray at h
  unfold LoadedModule.places at hp
  generalize module.name = name at h
  generalize module.source = source at h hp
  cases h with
  | file hc _ hd =>
    obtain rfl := List.mem_singleton.1 hp
    exact hextend hd (World.prefix_of_mem_candidates hc)
  | portions _ hall =>
    obtain ⟨-, directory, hd, rfl⟩ := hall place hp
    exact hextend hd (List.prefix_append _ _)

namespace AppHost

/-- What the application in a copied directory sees while it is loaded. -/
def loadSeen (host : AppHost) (copy : Location) (world : World) :
    List (String × Option LoadedModule) :=
  let file := moduleFile copy host.entryModule
  if world.files.isFile file then world.entrySeen file else []

/-- What the application in a directory sees under the names that it imports while a host starts
it. -/
def seen (host : AppHost) (directory : Path) (world : World) :
    List (String × Option LoadedModule) :=
  match host.source? directory world with
  | none => []
  | some source =>
    if (world.unreadable.lookup source).isNone then
      let (area, world) := makeArea world
      host.loadSeen (area ++ ["webapp"]) (world.copyInto source area)
    else []

lemma eq_application_of_hostedOf {found : Option Bound} {text : String}
    {imported : List (Option Json)} (h : hostedOf found = some (.application text imported)) :
    found = some (.application text imported) := by
  unfold hostedOf at h
  split at h
  · obtain ⟨rfl, rfl⟩ := Hosted.application.inj (Option.some.inj h)
    rfl
  · cases h
  · cases h
  · cases h
  · cases h

lemma loadApp_application {host : AppHost} {copy : Location} {world : World} {text : String}
    {imported : List (Option Json)}
    (h : (host.loadApp copy world).result = .ok (.application text imported)) :
    imported.Sublist (World.valuesOf (host.loadSeen copy world)) := by
  unfold loadApp at h
  unfold loadSeen
  simp only at h ⊢
  by_cases hfile : world.files.isFile (moduleFile copy host.entryModule) = true
  · rw [if_neg (by simp [hfile])] at h
    rw [if_pos hfile]
    split at h
    · cases h
    · next hok =>
      split at h
      · next hosted hhosted =>
        obtain rfl := Except.ok.inj h
        exact World.loadEntry_application hok (eq_application_of_hostedOf hhosted)
      · cases h
  · rw [if_pos (by simp [hfile])] at h
    cases h

/-- A host answers with values of modules that its application saw while it was started. -/
theorem start_application {host : AppHost} {directory : Path} {port : ℤ} {world : World}
    {url text : String} {imported : List (Option Json)}
    (h : (host.start directory port world).result = .ok url)
    (hh : (host.start directory port world).self.hosted = .application text imported) :
    imported.Sublist (World.valuesOf (host.seen directory world)) := by
  obtain ⟨source, hosted, server, bound, _, hsource, hlaunch, hself, -⟩ := start_ok h
  obtain ⟨hreadable, hload, -⟩ := launch_ok hlaunch
  obtain rfl : hosted = .application text imported := (congrArg AppHost.hosted hself).symm.trans hh
  have hreadable : world.unreadable.lookup source = none := hreadable
  unfold AppHost.seen
  simp only [hsource, hreadable, Option.isNone_none, if_true]
  exact loadApp_application hload

lemma seen_cases {host : AppHost} {directory : Path} {world : World} (hs : world.Sound)
    {name : String} {seen : LoadedModule} (h : (name, some seen) ∈ host.seen directory world) :
    (∀ old, world.modules.find? (.named name) = some old → seen = old) ∧
    (world.modules.find? (.named name) = none →
      seen.isBelow (areaOf (world.areas + 1)) = true ∨ IsPackage world seen ∨
        world.IsStray seen) := by
  unfold AppHost.seen at h
  split at h
  · cases h
  next source _ =>
  split_ifs at h
  · rw [makeArea_eq] at h
    unfold loadSeen World.copyInto at h
    simp only at h
    obtain ⟨hfiles, -⟩ := copy_next hs source rfl rfl
    split_ifs at h
    · obtain ⟨hold, hnew⟩ := World.entrySeen_cases h
      refine ⟨hold, fun hnone => ?_⟩
      obtain ⟨hname, hloaded⟩ := hnew hnone
      have hbelow : areaOf (world.areas + 1) <+:
          (moduleFile (areaOf (world.areas + 1) ++ ["webapp"]) host.entryModule).dropLast := by
        rw [moduleFile, List.dropLast_concat]
        exact List.prefix_append _ _
      cases isAdded_of_isLoadedFrom hs hfiles hbelow hloaded with
      | entry hn _ =>
        rw [hname] at hn
        cases hn
      | sibling _ _ hb => exact Or.inl hb
      | package hpackage => exact Or.inr (Or.inl hpackage)
      | stray hstray => exact Or.inr (Or.inr hstray)
    · cases h
  · cases h

lemma isSearched_of_foreign {world : World} {seen : LoadedModule}
    (h : seen.isBelow (areaOf (world.areas + 1)) = true ∨ IsPackage world seen ∨
      world.IsStray seen) {number : ℕ} (hle : number ≤ world.areas) {place : Location}
    (hp : place ∈ seen.places) (hb : areaOf number <+: place) : world.IsSearched place := by
  have hold : ¬ areaOf (world.areas + 1) <+: place := fun hnew => by
    have heq := areaOf_unique hb hnew
    omega
  rcases h with hown | ⟨_, places, -, hsource, -, hall⟩ | hstray
  · obtain ⟨file, hfile, hnew⟩ := LoadedModule.isBelow_iff.1 hown
    rw [LoadedModule.places, LoadedModule.file_eq_some_iff.1 hfile] at hp
    obtain rfl := List.mem_singleton.1 hp
    exact absurd hnew hold
  · rw [LoadedModule.places, hsource] at hp
    exact ((hall place hp).resolve_left hold).2
  · exact hstray.isSearched hp

end AppHost

namespace Fleet
variable {fleet : Fleet}

/-- What an application sees in any fleet while any host starts it. A name that is registered when
the start begins stands for the module that is registered; any other stands for a copy in the new
working area, for a package with a directory there or for a module along the search path. The module
is from the working area of another start just if such a module is registered under the name, or if
there is none and the search path leads there. -/
theorem seen_isForeign_iff (hf : fleet.Reachable) {host : AppHost} {directory : Path}
    {name : String} {seen : LoadedModule} (h : (name, some seen) ∈ host.seen directory fleet.world) :
    (∀ old, fleet.world.modules.find? (.named name) = some old → seen = old) ∧
    (fleet.world.modules.find? (.named name) = none →
      seen.isBelow (AppHost.areaOf (fleet.world.areas + 1)) = true ∨
        AppHost.IsPackage fleet.world seen ∨ fleet.world.IsStray seen) ∧
    (seen.IsForeign fleet.world ↔
      (∃ old, fleet.world.modules.find? (.named name) = some old ∧ old.IsForeign fleet.world) ∨
      fleet.world.modules.find? (.named name) = none ∧ ∃ place ∈ seen.places,
        fleet.world.IsSearched place ∧ ∃ number ≤ fleet.world.areas,
          AppHost.areaOf number <+: place) := by
  obtain ⟨hold, hnew⟩ := AppHost.seen_cases hf.sound.world h
  refine ⟨hold, hnew, ?_⟩
  constructor
  · intro hforeign
    cases hfind : fleet.world.modules.find? (.named name) with
    | some old =>
      obtain rfl := hold old hfind
      exact Or.inl ⟨seen, rfl, hforeign⟩
    | none =>
      obtain ⟨number, hle, hfrom⟩ := hforeign
      obtain ⟨place, hp, hb⟩ := LoadedModule.isFrom_iff.1 hfrom
      exact Or.inr ⟨rfl, place, hp, AppHost.isSearched_of_foreign (hnew hfind) hle hp hb,
        number, hle, hb⟩
  · rintro (⟨old, hfind, hforeign⟩ | ⟨-, place, hp, -, number, hle, hb⟩)
    · obtain rfl := hold old hfind
      exact hforeign
    · exact ⟨number, hle, LoadedModule.isFrom_iff.2 ⟨place, hp, hb⟩⟩

/-- A world with two web applications, each with a module of the same name beside it. -/
def twoGreetings : World where
  files := [
    (["cwd"], .directory),
    (["cwd", "one"], .directory),
    (["cwd", "one", "app.py"],
      .module ⟨[.importModule "greeting"], .defines [("app", .application "hello ")]⟩),
    (["cwd", "one", "greeting.py"], .module ⟨[], .defines [("VALUE", .value (.string "one"))]⟩),
    (["cwd", "two"], .directory),
    (["cwd", "two", "app.py"],
      .module ⟨[.importModule "greeting"], .defines [("app", .application "hello ")]⟩),
    (["cwd", "two", "greeting.py"], .module ⟨[], .defines [("VALUE", .value (.string "two"))]⟩)]

lemma twoGreetings_sound : twoGreetings.Sound := by
  refine .of_currentLocation (fun pair hpair => ?_) rfl
  simp only [twoGreetings, List.mem_cons, List.not_mem_nil, or_false] at hpair
  rcases hpair with rfl | rfl | rfl | rfl | rfl | rfl | rfl <;> simp [World.currentLocation]

/-- A host that is started alone sees its own module. -/
theorem greeting_seen_alone :
    let host : AppHost := { entryModule := "app", appName := "app", host := none }
    let greeting : LoadedModule := ⟨.named "greeting",
      .file ["security-harness-1", "webapp", "greeting.py"], [("VALUE", .value (.string "two"))]⟩
    host.seen ⟨0, ["two"]⟩ twoGreetings = [("greeting", some greeting)] ∧
    greeting.isBelow (AppHost.areaOf 1) = true ∧ ¬ greeting.IsForeign twoGreetings := by
  intro host greeting
  have hseen : host.seen ⟨0, ["two"]⟩ twoGreetings = [("greeting", some greeting)] := by
    subst host
    rfl
  have hf : Reachable ⟨twoGreetings, []⟩ := ⟨_, twoGreetings_sound, .refl⟩
  have hnone : twoGreetings.modules.find? (.named "greeting") = none := rfl
  have hpath (place : Location) : ¬ twoGreetings.IsSearched place := fun ⟨_, hentry, _⟩ => by
    cases hentry
  obtain ⟨-, -, hforeign⟩ := seen_isForeign_iff hf
    (show ("greeting", some greeting) ∈ host.seen ⟨0, ["two"]⟩ twoGreetings by
      rw [hseen]
      exact List.mem_singleton_self _)
  refine ⟨hseen, by decide, fun h => ?_⟩
  rcases hforeign.1 h with ⟨old, hold, -⟩ | ⟨-, place, -, hsearched, -⟩
  · rw [hnone] at hold
    cases hold
  · exact hpath place hsearched

/-- A host that is started while another one runs sees the module of the other, which has the same
name, and answers with its value. -/
theorem greeting_of_running_host :
    let host : AppHost := { entryModule := "app", appName := "app", host := none }
    let first := host.start ⟨0, ["one"]⟩ 8181 twoGreetings
    let second := host.start ⟨0, ["two"]⟩ 8182 first.world
    first.self.workingArea = some (AppHost.areaOf 1) ∧
    second.self.workingArea = some (AppHost.areaOf 2) ∧
    (host.seen ⟨0, ["two"]⟩ first.world).map (fun pair => (pair.1, pair.2.bind (·.file))) =
      [("greeting", some (AppHost.areaOf 1 ++ ["webapp", "greeting.py"]))] ∧
    (second.self.handle ⟨"GET", ['/'], []⟩ second.world).1 =
      .ok { status := 200, body := "hello one", contentType := some "text/plain" } := by
  intro host first second
  exact ⟨by decide +kernel, by decide +kernel, by decide +kernel, by decide +kernel⟩

end Fleet

end MockIssuer
