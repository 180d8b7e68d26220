import Mathlib
import MockIssuer.Host.Loading

/-!
# What loading leaves in a world

Loading runs programs that import each other, edit the search path and fail where they please. It
adds modules behind those that there were and changes none of them, and the modules that it adds
come from the directories that are searched (`loadEntry_cases`). Nothing else changes but the search
path and the count of entry modules.

A package with a file puts its own directory on the search path where its program does so, and this
directory is below the one that the package was found in: what is searched are the directories at or
below those that were searched at first.
-/
namespace MockIssuer

namespace ModuleTable

lemma define_of_forall_ne {modules : ModuleTable} {name : ModuleName}
    (h : ∀ module ∈ modules, module.name ≠ name) (names : List (String × Bound)) :
    modules.define name names = modules := by
  unfold define
  refine (List.map_congr_left fun module hm => ?_).trans (List.map_id _)
  rw [if_neg (h module hm)]
  rfl

lemma unregister_of_forall_ne {modules : ModuleTable} {name : ModuleName}
    (h : ∀ module ∈ modules, module.name ≠ name) : modules.unregister name = modules := by
  unfold unregister
  rw [List.filter_eq_self]
  intro module hm
  simpa using h module hm

lemma ne_of_find?_eq_none {modules : ModuleTable} {name : ModuleName}
    (h : modules.find? name = none) : ∀ module ∈ modules, module.name ≠ name := by
  intro module hm
  have hnot := List.find?_eq_none.1 h module hm
  simpa using hnot

end ModuleTable

namespace World

/-- Whether a module can come out of a search of some directories: from a file in one of them, or as
a package of directories there. -/
inductive IsFoundIn (files : FileSystem) (searched : Location → Prop) :
    ModuleName → ModuleSource → Prop where
  | file {text : String} {directory file : Location} (hc : file ∈ candidates directory text)
    (hf : files.isFile file = true) (hd : searched directory) :
    IsFoundIn files searched (.named text) (.file file)
  | portions {text : String} {places : List Location} (hne : places ≠ [])
    (hp : ∀ place ∈ places, files.isDirectory place = true ∧
      ∃ directory, searched directory ∧ place = directory ++ [text]) :
    IsFoundIn files searched (.named text) (.portions places)

lemma dropLast_of_mem_candidates {directory file : Location} {text : String}
    (h : file ∈ candidates directory text) :
    file.dropLast = directory ∨ file.dropLast = directory ++ [text] := by
  rcases List.mem_pair.1 h with rfl | rfl
  · right
    rw [packageFile, List.dropLast_append_of_ne_nil (List.cons_ne_nil _ _)]
    rfl
  · left
    rw [moduleFile, List.dropLast_concat]

lemma prefix_of_mem_candidates {directory file : Location} {text : String}
    (h : file ∈ candidates directory text) : directory <+: file := by
  rcases List.mem_pair.1 h with rfl | rfl <;> exact List.prefix_append _ _

/-- A world in the course of loading: beside the modules that it had before, it has some that are
allowed, and its search path is within the directories that may be searched. -/
def IsLoading (before : World) (allowed : ModuleName → ModuleSource → Prop)
    (searched : Location → Prop) (world : World) : Prop :=
  ∃ added path, world = { before with modules := before.modules ++ added, searchPath := path } ∧
    (∀ module ∈ added, allowed module.name module.source) ∧ ∀ directory ∈ path, searched directory

namespace IsLoading
variable {before world : World} {allowed : ModuleName → ModuleSource → Prop}
  {searched : Location → Prop}

lemma parts (h : IsLoading before allowed searched world) : world.files = before.files ∧
    (∀ directory ∈ world.searchPath, searched directory) ∧ before.modules ⊆ world.modules := by
  obtain ⟨added, path, rfl, -, hpath⟩ := h
  exact ⟨rfl, hpath, List.subset_append_left _ _⟩

lemma enterPath (h : IsLoading before allowed searched world) (position : ℕ) {directory : Location}
    (hd : searched directory) :
    IsLoading before allowed searched (world.enterPath position directory) := by
  obtain ⟨added, path, rfl, hadded, hpath⟩ := h
  refine ⟨added, path.take position ++ directory :: path.drop position, rfl, hadded,
    fun other ho => ?_⟩
  rcases List.mem_append.1 ho with ho | ho
  · exact hpath other (List.mem_of_mem_take ho)
  · rcases List.mem_cons.1 ho with rfl | ho
    · exact hd
    · exact hpath other (List.mem_of_mem_drop ho)

lemma leavePath (h : IsLoading before allowed searched world) (directory : Location) :
    IsLoading before allowed searched (world.leavePath directory) := by
  obtain ⟨added, path, rfl, hadded, hpath⟩ := h
  exact ⟨added, path.erase directory, rfl, hadded,
    fun other ho => hpath other (List.mem_of_mem_erase ho)⟩

lemma register (h : IsLoading before allowed searched world) (module : LoadedModule)
    (hm : allowed module.name module.source) : IsLoading before allowed searched
      { world with modules := world.modules.register module } := by
  obtain ⟨added, path, rfl, hadded, hpath⟩ := h
  refine ⟨added ++ [module], path, ?_, fun other ho => ?_, hpath⟩
  · simp only [ModuleTable.register, List.append_assoc]
  · rcases List.mem_append.1 ho with ho | ho
    · exact hadded other ho
    · obtain rfl := List.mem_singleton.1 ho
      exact hm

lemma unregister (h : IsLoading before allowed searched world) {name : ModuleName}
    (hn : ∀ module ∈ before.modules, module.name ≠ name) : IsLoading before allowed searched
      { world with modules := world.modules.unregister name } := by
  obtain ⟨added, path, rfl, hadded, hpath⟩ := h
  refine ⟨ModuleTable.unregister added name, path, ?_, fun other ho => ?_, hpath⟩
  · have hkept := ModuleTable.unregister_of_forall_ne hn
    unfold ModuleTable.unregister at hkept ⊢
    simp only [List.filter_append, hkept]
  · exact hadded other (List.mem_of_mem_filter ho)

lemma finish (h : IsLoading before allowed searched world) {name : ModuleName}
    (hn : ∀ module ∈ before.modules, module.name ≠ name) (imported : List (Option Json))
    (ending : Ending) :
    IsLoading before allowed searched (world.finish name imported ending).2 := by
  cases ending with
  | raises family message => exact h
  | defines names =>
    obtain ⟨added, path, rfl, hadded, hpath⟩ := h
    refine ⟨ModuleTable.define added name (names.map (bindName imported)), path, ?_,
      fun other ho => ?_, hpath⟩
    · have hkept := ModuleTable.define_of_forall_ne hn (names.map (bindName imported))
      unfold ModuleTable.define at hkept
      simp only [World.finish, ModuleTable.define, List.map_append, hkept]
    · obtain ⟨module, hm, rfl⟩ := List.mem_map.1 ho
      have hallowed := hadded module hm
      split
      · exact hallowed
      · exact hallowed

lemma findFile?_eq_some {name : String} {file : Location}
    (hf : world.findFile? name = some file) :
    ∃ directory ∈ world.searchPath, file ∈ candidates directory name ∧
      world.files.isFile file = true := by
  obtain ⟨directory, hd, hc⟩ := List.mem_flatMap.1 (List.mem_of_find?_eq_some hf)
  exact ⟨directory, hd, hc, List.find?_some hf⟩

lemma mem_portions {name : String} {place : Location} (h : place ∈ world.portions name) :
    world.files.isDirectory place = true ∧
      ∃ directory ∈ world.searchPath, place = directory ++ [name] := by
  obtain ⟨hmem, hdirectory⟩ := List.mem_filter.1 h
  obtain ⟨directory, hd, rfl⟩ := List.mem_map.1 hmem
  exact ⟨hdirectory, directory, hd, rfl⟩

lemma findModule?_eq_file {name : String} {file : Location}
    (h : world.findModule? name = some (.file file)) : world.findFile? name = some file := by
  unfold findModule? at h
  split at h
  · next hfile =>
    rw [hfile]
    cases h
    rfl
  · cases h
  · cases h

lemma findModule?_eq_portions {name : String} {places : List Location}
    (h : world.findModule? name = some (.portions places)) :
    world.findFile? name = none ∧ world.portions name = places ∧ places ≠ [] := by
  unfold findModule? at h
  split at h
  · cases h
  · cases h
  · next hfile hne =>
    cases h
    exact ⟨hfile, rfl, fun hnil => hne hnil⟩

lemma isFoundIn_of_findModule? {files : FileSystem} {name : String} {source : ModuleSource}
    (hfiles : world.files = files) (hpath : ∀ directory ∈ world.searchPath, searched directory)
    (h : world.findModule? name = some source) :
    IsFoundIn files searched (.named name) source := by
  subst hfiles
  cases source with
  | file file =>
    obtain ⟨directory, hd, hc, hfile⟩ := findFile?_eq_some (findModule?_eq_file h)
    exact .file hc hfile (hpath directory hd)
  | portions places =>
    obtain ⟨-, rfl, hne⟩ := findModule?_eq_portions h
    refine .portions hne fun place hp => ?_
    obtain ⟨hdirectory, directory, hd, rfl⟩ := mem_portions hp
    exact ⟨hdirectory, directory, hpath directory hd, rfl⟩

lemma searched_of_findModule? {name : String} {file : Location}
    (hpath : ∀ directory ∈ world.searchPath, searched directory)
    (hbelow : ∀ directory name, searched directory → searched (directory ++ [name]))
    (h : world.findModule? name = some (.file file)) : searched file.dropLast := by
  obtain ⟨directory, hd, hc, -⟩ := findFile?_eq_some (findModule?_eq_file h)
  rcases dropLast_of_mem_candidates hc with hlast | hlast <;> rw [hlast]
  · exact hpath directory hd
  · exact hbelow directory name (hpath directory hd)

/-- Programs that run with some fuel go on with a loading. -/
def Runs (before : World) (allowed : ModuleName → ModuleSource → Prop)
    (searched : Location → Prop) (fuel : ℕ) : Prop :=
  ∀ world name directory ending imported steps, IsLoading before allowed searched world →
    (∀ module ∈ before.modules, module.name ≠ name) → searched directory →
    IsLoading before allowed searched
      (runSteps fuel world name directory ending imported steps).2

/-- Imports with some fuel go on with a loading. -/
def Imports (before : World) (allowed : ModuleName → ModuleSource → Prop)
    (searched : Location → Prop) (fuel : ℕ) : Prop :=
  ∀ world name, IsLoading before allowed searched world →
    IsLoading before allowed searched (importModule fuel world name).2

lemma runs_succ {fuel : ℕ} (hruns : Runs before allowed searched fuel)
    (himports : Imports before allowed searched fuel) :
    Runs before allowed searched (fuel + 1) := by
  intro world name directory ending imported steps h hn hd
  match steps with
  | [] =>
    rw [runSteps]
    · exact h.finish hn imported ending
    · simp
  | .importModule other :: rest =>
    have hnext := himports world other h
    rw [runSteps]
    rcases hi : importModule fuel world other with ⟨failure | value, left⟩
    · rw [hi] at hnext
      exact hnext
    · rw [hi] at hnext
      exact hruns left name directory ending _ rest hnext hn hd
  | .leavePath :: rest =>
    rw [runSteps]
    exact hruns _ name directory ending imported rest (h.leavePath directory) hn hd
  | .enterPath position :: rest =>
    rw [runSteps]
    exact hruns _ name directory ending imported rest (h.enterPath position hd) hn hd

lemma imports_succ {fuel : ℕ} (hruns : Runs before allowed searched fuel)
    (hbelow : ∀ directory name, searched directory → searched (directory ++ [name]))
    (hallowed : ∀ name source, IsFoundIn before.files searched name source → allowed name source) :
    Imports before allowed searched (fuel + 1) := by
  intro world name h
  obtain ⟨hfiles, hsearched, hn⟩ := h.parts
  unfold importModule
  split
  · exact h
  · exact h
  · exact h
  · next places _ _ hfound =>
    exact h.register ⟨.named name, .portions places, []⟩
      (hallowed _ _ (isFoundIn_of_findModule? hfiles hsearched hfound))
  · next _ _ _ left file hfuel hmodule hfound =>
    obtain rfl : fuel = left := Nat.succ.inj hfuel
    have hfresh : ∀ module ∈ before.modules, module.name ≠ .named name :=
      fun module hm => ModuleTable.ne_of_find?_eq_none hmodule module (hn hm)
    have hregistered := h.register ⟨.named name, .file file, []⟩
      (hallowed _ _ (isFoundIn_of_findModule? hfiles hsearched hfound))
    have hrun := hruns _ (.named name) file.dropLast (world.files.program file).ending []
      (world.files.program file).steps hregistered hfresh
      (searched_of_findModule? hsearched hbelow hfound)
    simp only
    rcases hr : runSteps fuel { world with
      modules := world.modules.register ⟨.named name, .file file, []⟩ } (.named name)
      file.dropLast (world.files.program file).ending [] (world.files.program file).steps with
      ⟨failure | ⟨⟩, after⟩
    · rw [hr] at hrun
      exact hrun.unregister hfresh
    · rw [hr] at hrun
      exact hrun

/-- Running a program and importing a module both go on with the loading. Each calls the other with
less fuel, so the induction is over both at once. -/
lemma runs_and_imports
    (hbelow : ∀ directory name, searched directory → searched (directory ++ [name]))
    (hallowed : ∀ name source, IsFoundIn before.files searched name source → allowed name source)
    (fuel : ℕ) : Runs before allowed searched fuel ∧ Imports before allowed searched fuel := by
  induction fuel with
  | zero =>
    constructor
    · intro world name directory ending imported steps h _ _
      rw [runSteps]
      exact h
    · intro world name h
      rw [importModule]
      exact h
  | succ fuel ih =>
    obtain ⟨hruns, himports⟩ := ih
    exact ⟨runs_succ hruns himports, imports_succ hruns hbelow hallowed⟩

end IsLoading

/-- Whether a directory is at or below that of a file or one on the search path. -/
def Reaches (world : World) (file directory : Location) : Prop :=
  file.dropLast <+: directory ∨ ∃ entry ∈ world.searchPath, entry <+: directory

lemma Reaches.append {world : World} {file directory : Location} (h : world.Reaches file directory)
    (name : String) : world.Reaches file (directory ++ [name]) := by
  rcases h with h | ⟨entry, he, h⟩
  · exact Or.inl (h.trans (List.prefix_append _ _))
  · exact Or.inr ⟨entry, he, h.trans (List.prefix_append _ _)⟩

/-- Whether a module can be added where an entry module is loaded from a file: it is this module, or
was found at or below its directory or one on the search path. -/
def IsLoadedFrom (world : World) (file : Location) (name : ModuleName)
    (source : ModuleSource) : Prop :=
  (name = .entry (world.entries + 1) ∧ source = .file file) ∨
    IsFoundIn world.files (world.Reaches file) name source

/-- The loading of an entry module begins with this module registered and its directory searched. -/
lemma isLoading_registered (world : World) (file : Location) :
    IsLoading { world with entries := world.entries + 1 } (world.IsLoadedFrom file)
      (world.Reaches file)
      ({ world with
        entries := world.entries + 1
        modules := world.modules.register ⟨.entry (world.entries + 1), .file file, []⟩ }.enterPath
          0 file.dropLast) := by
  refine IsLoading.enterPath ⟨[⟨.entry (world.entries + 1), .file file, []⟩], world.searchPath,
    rfl, fun module hm => ?_, fun directory hd => Or.inr ⟨directory, hd, List.prefix_rfl⟩⟩ 0
    (Or.inl List.prefix_rfl)
  obtain rfl := List.mem_singleton.1 hm
  exact Or.inl ⟨rfl, rfl⟩

/-- Loading an entry module counts it, adds it behind the others with what it imports, and changes
nothing else but the search path, which directories of the application may be put on. -/
theorem loadEntry_cases {world : World}
    (hn : ∀ module ∈ world.modules, module.name ≠ .entry (world.entries + 1)) (file : Location) :
    ∃ result added path, world.loadEntry file = (world.entries + 1, result, { world with
      entries := world.entries + 1, modules := world.modules ++ added, searchPath := path }) ∧
    (∀ module ∈ added, world.IsLoadedFrom file module.name module.source) ∧
    ∀ directory ∈ path, world.Reaches file directory := by
  have hbelow (directory : Location) (name : String) (hd : world.Reaches file directory) :
      world.Reaches file (directory ++ [name]) := hd.append name
  obtain ⟨hrun, -⟩ := IsLoading.runs_and_imports hbelow
    (fun _ _ hfound => Or.inr hfound) world.loadFuel
  have hdone := (hrun _ (.entry (world.entries + 1)) file.dropLast (world.files.program file).ending
    [] (world.files.program file).steps (world.isLoading_registered file) hn
    (Or.inl List.prefix_rfl)).leavePath file.dropLast
  obtain ⟨added, path, hafter, hadded, hpath⟩ := hdone
  exact ⟨_, added, path, by rw [← hafter]; rfl, hadded, hpath⟩

end World

end MockIssuer
