import MockIssuer.Proofs.EntryModules
import MockIssuer.Proofs.FailedStart

/-!
# What applications leave on the search path

The directory of an entry module is on the search path while the module is loaded, and is taken off
again. Programs can take their own directory off too soon, or put it on once more for good. Imports
can lead into a working area if a directory there or above is on the path and files are left in the
area (`World.Exposes`). Where no program puts a directory on the path, no act of a host
leaves more on it than there was before (`AppHost.Act.searchPath_sublist`), so no import ever leads
into a working area from outside (`World.IsQuiet.act`).
-/
namespace MockIssuer
open AppHost (areaOf)

/-- Whether an import can lead into a working area: the search path has a directory there or above,
and there are files in it. -/
def World.Exposes (world : World) (area : ℕ) : Prop :=
  (∃ directory ∈ world.searchPath, areaOf area <+: directory ∨ directory <+: areaOf area) ∧
    ∃ pair ∈ world.files, areaOf area <+: pair.1

/-- An import that finds a module in a working area along the search path leads there. -/
lemma World.IsStray.exposes {world : World} {module : LoadedModule} {number : ℕ}
    (h : world.IsStray module) (hb : module.isBelow (areaOf number) = true) :
    world.Exposes number := by
  obtain ⟨file, hfile, hbelow⟩ := LoadedModule.isBelow_iff.1 hb
  unfold World.IsStray at h
  rw [LoadedModule.file_eq_some_iff.1 hfile] at h
  obtain ⟨hisfile, directory, ⟨entry, he, hentry⟩, hdirectory⟩ := h.of_file
  obtain ⟨pair, hpair, rfl⟩ := FileSystem.exists_mem_of_isFile hisfile
  exact ⟨⟨entry, he, List.prefix_or_prefix_of_prefix hbelow (hentry.trans hdirectory)⟩,
    pair, hpair, hbelow⟩

/-- A program that puts nothing on the search path. -/
def Program.IsQuiet (program : Program) : Prop :=
  ∀ position, .enterPath position ∉ program.steps

/-- Files whose programs put nothing on the search path. -/
def FileSystem.IsQuiet (files : FileSystem) : Prop :=
  ∀ location program, (location, Entry.module program) ∈ files → program.IsQuiet

namespace FileSystem.IsQuiet
variable {files : FileSystem}

lemma program (h : files.IsQuiet) (location : Location) : (files.program location).IsQuiet := by
  unfold FileSystem.program at?
  by_cases hl : location.isEmpty = true
  · rw [if_pos hl]
    exact fun _ => List.not_mem_nil
  rw [if_neg hl]
  split
  · next program hlookup =>
    obtain ⟨front, back, rfl, -⟩ := List.lookup_eq_some_iff.1 hlookup
    exact h location program (by simp)
  · exact fun _ => List.not_mem_nil

lemma mono (h : files.IsQuiet) {fewer : FileSystem} (hf : ∀ pair ∈ fewer, pair ∈ files) :
    fewer.IsQuiet := fun location program hmem => h location program (hf _ hmem)

lemma put (h : files.IsQuiet) (location : Location) {entry : Entry}
    (he : ∀ program, entry = .module program → program.IsQuiet) :
    (files.put location entry).IsQuiet := by
  intro other program hmem
  rcases List.mem_append.1 hmem with hold | hnew
  · exact h other program (List.mem_of_mem_filter hold)
  · exact he program (congrArg Prod.snd (List.mem_singleton.1 hnew)).symm

lemma write_directory (h : files.IsQuiet) (location : Location) :
    (files.write location .directory).IsQuiet := by
  refine put ?_ location fun program he => by cases he
  unfold addParents
  generalize List.range location.length = depths
  induction depths generalizing files with
  | nil => exact h
  | cons depth rest ih =>
    rw [List.foldl_cons]
    by_cases hp : (files.at? (location.take depth)).isSome = true
    · rw [if_pos hp]
      exact ih h
    · rw [if_neg hp]
      exact ih (h.put _ fun program he => by cases he)

lemma copyTree (h : files.IsQuiet) (source target : Location) :
    (files.copyTree source target).IsQuiet := by
  have hbelow : (files.below source).IsQuiet := by
    intro location program hmem
    obtain ⟨⟨other, entry⟩, hother, hpair⟩ := List.mem_filterMap.1 hmem
    simp only at hpair
    split_ifs at hpair
    obtain ⟨-, rfl⟩ := Prod.mk.inj (Option.some.inj hpair)
    exact h other program hother
  have hwritten := h.write_directory target
  unfold FileSystem.copyTree
  generalize files.write target .directory = written at hwritten
  generalize files.below source = copied at hbelow
  induction copied generalizing written with
  | nil => exact hwritten
  | cons pair rest ih =>
    obtain ⟨location, entry⟩ := pair
    rw [List.foldl_cons]
    refine ih _ (hwritten.put _ fun program he => ?_)
      (hbelow.mono fun _ hmem => List.mem_cons_of_mem _ hmem)
    exact hbelow location program (by rw [he]; exact List.mem_cons_self)

end FileSystem.IsQuiet

namespace World

/-- Programs that run with some fuel leave no more on the search path than there was. -/
def RunsShrink (files : FileSystem) (fuel : ℕ) : Prop :=
  ∀ world module directory ending imported steps, world.files = files →
    (∀ position, .enterPath position ∉ steps) →
    (runSteps fuel world module directory ending imported steps).2.searchPath.Sublist
      world.searchPath

/-- Imports with some fuel leave no more on the search path than there was. -/
def ImportsShrink (files : FileSystem) (fuel : ℕ) : Prop :=
  ∀ world name, world.files = files →
    (importModule fuel world name).2.searchPath.Sublist world.searchPath

variable {files : FileSystem} {fuel : ℕ}

lemma finish_searchPath (world : World) (module : ModuleName) (imported : List (Option Json))
    (ending : Ending) : (world.finish module imported ending).2.searchPath = world.searchPath := by
  cases ending <;> rfl

lemma runsShrink_succ (hruns : RunsShrink files fuel) (himports : ImportsShrink files fuel) :
    RunsShrink files (fuel + 1) := by
  intro world module directory ending imported steps hfiles hsteps
  match steps with
  | [] =>
    rw [runSteps]
    · rw [finish_searchPath]
    · simp
  | .importModule name :: rest =>
    have hnext := himports world name hfiles
    have hleft := importModule_files fuel world name
    rw [runSteps]
    rcases hi : importModule fuel world name with ⟨failure | value, left⟩
    · rw [hi] at hnext
      exact hnext
    · rw [hi] at hnext hleft
      exact (hruns left module directory ending _ rest (hleft.trans hfiles)
        fun position hmem => hsteps position (List.mem_cons_of_mem _ hmem)).trans hnext
  | .leavePath :: rest =>
    rw [runSteps]
    exact (hruns (world.leavePath directory) module directory ending imported rest hfiles
      fun position hmem => hsteps position (List.mem_cons_of_mem _ hmem)).trans List.erase_sublist
  | .enterPath position :: rest => exact absurd List.mem_cons_self (hsteps position)

lemma importsShrink_succ (hq : files.IsQuiet) (hruns : RunsShrink files fuel) :
    ImportsShrink files (fuel + 1) := by
  intro world name hfiles
  unfold importModule
  split
  · exact .refl _
  · exact .refl _
  · exact .refl _
  · exact .refl _
  · next _ _ _ left file hfuel hmodule hfile =>
    obtain rfl : fuel = left := Nat.succ.inj hfuel
    have hquiet : (world.files.program file).IsQuiet := by
      rw [hfiles]
      exact hq.program file
    have hrun := hruns { world with
      modules := world.modules.register ⟨.named name, .file file, []⟩ } (.named name) file.dropLast
      (world.files.program file).ending [] (world.files.program file).steps hfiles hquiet
    simp only
    rcases hr : runSteps fuel { world with
      modules := world.modules.register ⟨.named name, .file file, []⟩ } (.named name)
      file.dropLast (world.files.program file).ending [] (world.files.program file).steps with
      ⟨failure | ⟨⟩, after⟩
    · rw [hr] at hrun
      exact hrun
    · rw [hr] at hrun
      exact hrun

/-- Programs and imports call each other with less fuel, so the induction is over both at once. -/
lemma runsShrink_and_importsShrink (hq : files.IsQuiet) (fuel : ℕ) :
    RunsShrink files fuel ∧ ImportsShrink files fuel := by
  induction fuel with
  | zero =>
    constructor
    · intro world module directory ending imported steps _ _
      rw [runSteps]
    · intro world name _
      rw [importModule]
  | succ fuel ih =>
    obtain ⟨hruns, himports⟩ := ih
    exact ⟨runsShrink_succ hruns himports, importsShrink_succ hq hruns⟩

/-- The directory that is put on the search path for an entry module is taken off again. -/
theorem loadEntry_searchPath_sublist {world : World} (hq : world.files.IsQuiet) (file : Location) :
    (world.loadEntry file).2.2.searchPath.Sublist world.searchPath := by
  obtain ⟨hruns, -⟩ := runsShrink_and_importsShrink hq world.loadFuel
  have hrun := hruns ({ world with
    entries := world.entries + 1
    modules := world.modules.register ⟨.entry (world.entries + 1), .file file, []⟩ }.enterPath
      0 file.dropLast) (.entry (world.entries + 1)) file.dropLast (world.files.program file).ending []
    (world.files.program file).steps rfl (hq.program file)
  have herase := hrun.erase file.dropLast
  rwa [enterPath, List.take_zero, List.drop_zero, List.nil_append, List.erase_cons_head] at herase

end World

namespace AppHost
variable {world : World}

lemma loadApp_searchPath_sublist (hq : world.files.IsQuiet) (host : AppHost) (copy : Location) :
    (host.loadApp copy world).world.searchPath.Sublist world.searchPath := by
  have hload := World.loadEntry_searchPath_sublist hq (moduleFile copy host.entryModule)
  unfold loadApp
  simp only
  split
  · exact .refl _
  · split
    · exact hload
    · split <;> exact hload

lemma launch_searchPath_sublist (hs : world.Sound) (hq : world.files.IsQuiet) (host : AppHost)
    (source : Location) (port : ℤ) :
    (host.launch source (makeArea world).1 port (makeArea world).2).world.searchPath.Sublist
        world.searchPath ∧
      (host.launch source (makeArea world).1 port (makeArea world).2).world.files.IsQuiet := by
  have hmade : (makeArea world).2.files.IsQuiet := hq.write_directory _
  rcases host.launch_load source (makeArea world).1 port (makeArea world).2 with
    ⟨-, -, hworld⟩ | ⟨bound, next, log, -, hworld⟩
  · rw [hworld]
    exact ⟨.refl _, hmade⟩
  · have hcopied : ((makeArea world).2.copyInto source (makeArea world).1).files.IsQuiet :=
      hmade.copyTree source _
    have hfresh : ∀ module ∈ ((makeArea world).2.copyInto source (makeArea world).1).modules,
        module.name ≠ .entry (world.entries + 1) := hs.ne_next
    obtain ⟨-, hfiles⟩ := loadApp_registers host ((makeArea world).1 ++ ["webapp"]) hfresh
    rw [hworld]
    refine ⟨loadApp_searchPath_sublist hcopied host _, ?_⟩
    simp only [hfiles]
    exact hcopied

/-- No act of a host leaves more on the search path than there was, and none adds programs that put
something on it. -/
theorem Act.searchPath_sublist {host after : AppHost} {world' : World} (hs : world.Sound)
    (hq : world.files.IsQuiet) (h : Act host world after world') :
    world'.searchPath.Sublist world.searchPath ∧ world'.files.IsQuiet := by
  cases h with
  | start directory port =>
    rcases host.start_startIn directory port world with
      ⟨_, _, -, hstart, log, rfl⟩ | ⟨-, source, text, -, -, hstart⟩
    · rw [hstart]
      exact ⟨.refl _, hq⟩
    · obtain ⟨hpath, hfiles⟩ := host.startIn_searchPath source text port world
      obtain ⟨hsublist, hquiet⟩ := launch_searchPath_sublist hs hq host source port
      rw [hstart, hpath]
      exact ⟨hsublist, hquiet.mono hfiles⟩
  | stop =>
    rcases host.stop_cases world with ⟨_, -, hstop⟩ | ⟨_, _, hstop, log, rfl⟩
    · rw [hstop]
      exact ⟨.refl _, hq⟩
    · rw [hstop]
      exact ⟨.refl _, hq.mono fun _ hpair => mem_of_mem_clearedFiles hpair⟩
  | handle request => exact ⟨.refl _, hq⟩
  | drift _ server running thread _ _ => exact ⟨.refl _, hq⟩

end AppHost

/-- A world whose programs put nothing on the search path, and in which no directory of a working area
or above one is on it. -/
structure World.IsQuiet (world : World) : Prop where
  files : world.files.IsQuiet
  path : ∀ directory ∈ world.searchPath, ∀ number,
    ¬ areaOf number <+: directory ∧ ¬ directory <+: areaOf number

namespace World.IsQuiet
variable {world : World}

lemma not_exposes (h : world.IsQuiet) (number : ℕ) : ¬ world.Exposes number := by
  rintro ⟨⟨directory, hd, hbelow | habove⟩, -⟩
  · exact (h.path directory hd number).1 hbelow
  · exact (h.path directory hd number).2 habove

/-- Whatever hosts do, it stays so. -/
theorem act (h : world.IsQuiet) (hs : world.Sound) {host after : AppHost} {world' : World}
    (ha : AppHost.Act host world after world') : world'.IsQuiet := by
  obtain ⟨hpath, hfiles⟩ := ha.searchPath_sublist hs h.files
  exact ⟨hfiles, fun directory hd => h.path directory (hpath.subset hd)⟩

end World.IsQuiet

end MockIssuer
