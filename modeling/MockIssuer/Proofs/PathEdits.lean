import MockIssuer.Proofs.SearchPath

/-!
# Edits of the search path

While an entry module is loaded, its program and the programs of the modules that it imports put
their directories on the search path and take them off, in any order, at any place and as often as
they please. The directory of the entry module is put on before them and taken off once after them,
however the loading ends. So the search path that a start leaves is what all these edits make of the
one that it found (`AppHost.start_searchPath`). Where the edits are of the copied directory alone,
the entries that were there keep their order, and the copied directory stays on the path as often as
the programs have put it on without taking it off (`AppHost.start_entriesLeft`).
-/
namespace MockIssuer
open AppHost (areaOf)

/-- An edit of the search path. -/
inductive PathEdit where
  | enter (position : ℕ) (directory : Location)
  | leave (directory : Location)

namespace PathEdit

def directory : PathEdit → Location
  | enter _ directory | leave directory => directory

def apply (path : List Location) : PathEdit → List Location
  | enter position directory => path.take position ++ directory :: path.drop position
  | leave directory => path.erase directory

/-- How often a directory is on the search path after an edit of it. -/
def count (entries : ℕ) : PathEdit → ℕ
  | enter _ _ => entries + 1
  | leave _ => entries - 1

/-- An edit at the front of the search path. -/
def IsInFront : PathEdit → Prop
  | enter position _ => position = 0
  | leave _ => True

variable {directory : Location} {path : List Location}

lemma filter_erase (directory : Location) (path : List Location) :
    (path.erase directory).filter (· ≠ directory) = path.filter (· ≠ directory) := by
  induction path with
  | nil => rfl
  | cons place rest ih =>
    by_cases hp : place = directory
    · rw [hp, List.erase_cons_head, List.filter_cons_of_neg (by simp)]
    · rw [List.erase_cons_tail (by simpa using hp), List.filter_cons_of_pos (by simpa using hp),
        List.filter_cons_of_pos (by simpa using hp), ih]

lemma apply_entries (path : List Location) {edit : PathEdit} (he : edit.directory = directory) :
    (apply path edit).filter (· ≠ directory) = path.filter (· ≠ directory) ∧
      (apply path edit).count directory = edit.count (path.count directory) := by
  subst he
  cases edit with
  | enter position directory =>
    constructor
    · rw [apply, List.filter_append, List.filter_cons_of_neg (by simp [PathEdit.directory]),
        ← List.filter_append, List.take_append_drop]
    · have hsplit := congrArg (List.count directory) (List.take_append_drop position path)
      rw [List.count_append] at hsplit
      simp only [apply, PathEdit.directory, count, List.count_append, List.count_cons_self]
      omega
  | leave directory =>
    exact ⟨filter_erase directory path, List.count_erase_self⟩

lemma foldl_entries (path : List Location) {edits : List PathEdit}
    (he : ∀ edit ∈ edits, edit.directory = directory) :
    (edits.foldl apply path).filter (· ≠ directory) = path.filter (· ≠ directory) ∧
      (edits.foldl apply path).count directory = edits.foldl count (path.count directory) := by
  induction edits generalizing path with
  | nil => exact ⟨rfl, rfl⟩
  | cons edit rest ih =>
    obtain ⟨hothers, hcount⟩ := apply_entries path (he edit List.mem_cons_self)
    obtain ⟨hrest, hcounts⟩ :=
      ih (apply path edit) fun other ho => he other (List.mem_cons_of_mem _ ho)
    rw [List.foldl_cons, List.foldl_cons, ← hcount]
    exact ⟨hrest.trans hothers, hcounts⟩

lemma apply_replicate (hp : directory ∉ path) (entries : ℕ) {edit : PathEdit}
    (he : edit.directory = directory) (hf : edit.IsInFront) :
    apply (List.replicate entries directory ++ path) edit =
      List.replicate (edit.count entries) directory ++ path := by
  subst he
  cases edit with
  | enter position directory =>
    obtain rfl : position = 0 := hf
    rfl
  | leave directory =>
    cases entries with
    | zero => exact List.erase_of_not_mem hp
    | succ entries => exact List.erase_cons_head ..

lemma foldl_apply (hp : directory ∉ path) {edits : List PathEdit}
    (he : ∀ edit ∈ edits, edit.directory = directory) (hf : ∀ edit ∈ edits, edit.IsInFront)
    (entries : ℕ) : edits.foldl apply (List.replicate entries directory ++ path) =
      List.replicate (edits.foldl count entries) directory ++ path := by
  induction edits generalizing entries with
  | nil => rfl
  | cons edit rest ih =>
    rw [List.foldl_cons,
      apply_replicate hp entries (he edit List.mem_cons_self) (hf edit List.mem_cons_self)]
    exact ih (fun other ho => he other (List.mem_cons_of_mem _ ho))
      (fun other ho => hf other (List.mem_cons_of_mem _ ho)) (edit.count entries)

end PathEdit

namespace World

mutual

/-- The edits that the rest of a program in a directory performs, in order. -/
def stepsEdits (fuel : Nat) (world : World) (directory : Location) (steps : List LoadStep) :
    List PathEdit :=
  match fuel, steps with
  | 0, _ => []
  | _, [] => []
  | fuel + 1, .importModule name :: rest =>
    importEdits fuel world name ++
      match importModule fuel world name with
      | (.error _, _) => []
      | (.ok _, world) => stepsEdits fuel world directory rest
  | fuel + 1, .leavePath :: rest =>
    .leave directory :: stepsEdits fuel (world.leavePath directory) directory rest
  | fuel + 1, .enterPath position :: rest =>
    .enter position directory :: stepsEdits fuel (world.enterPath position directory) directory rest

/-- The edits that are performed while a module is imported. -/
def importEdits (fuel : Nat) (world : World) (name : String) : List PathEdit :=
  match fuel, world.modules.find? (.named name), world.findModule? name with
  | fuel + 1, none, some (.file file) =>
    stepsEdits fuel { world with modules := world.modules.register ⟨.named name, .file file, []⟩ }
      file.dropLast (world.files.program file).steps
  | _, _, _ => []

end

/-- The edits that are performed while an entry module is loaded. -/
def entryEdits (world : World) (file : Location) : List PathEdit :=
  let number := world.entries + 1
  let registered :=
    { world with
      entries := number
      modules := world.modules.register ⟨.entry number, .file file, []⟩ }
  stepsEdits world.loadFuel (registered.enterPath 0 file.dropLast) file.dropLast
    (world.files.program file).steps

/-- Programs that run with some fuel change the search path by their edits. -/
def RunsEdit (fuel : ℕ) : Prop :=
  ∀ world module directory ending imported steps,
    (runSteps fuel world module directory ending imported steps).2.searchPath =
      (stepsEdits fuel world directory steps).foldl PathEdit.apply world.searchPath

/-- Imports with some fuel change the search path by their edits. -/
def ImportsEdit (fuel : ℕ) : Prop :=
  ∀ world name, (importModule fuel world name).2.searchPath =
    (importEdits fuel world name).foldl PathEdit.apply world.searchPath

lemma runsEdit_succ {fuel : ℕ} (hruns : RunsEdit fuel) (himports : ImportsEdit fuel) :
    RunsEdit (fuel + 1) := by
  intro world module directory ending imported steps
  match steps with
  | [] =>
    rw [runSteps, finish_searchPath]
    · simp [stepsEdits]
    · simp
  | .importModule name :: rest =>
    have hnext := himports world name
    rw [runSteps, stepsEdits, List.foldl_append]
    rcases hi : importModule fuel world name with ⟨failure | value, left⟩
    · rw [hi] at hnext
      exact hnext
    · rw [hi] at hnext
      rw [← hnext]
      exact hruns left module directory ending _ rest
  | .leavePath :: rest =>
    rw [runSteps, stepsEdits]
    exact hruns (world.leavePath directory) module directory ending imported rest
  | .enterPath position :: rest =>
    rw [runSteps, stepsEdits]
    exact hruns (world.enterPath position directory) module directory ending imported rest

lemma importsEdit_succ {fuel : ℕ} (hruns : RunsEdit fuel) : ImportsEdit (fuel + 1) := by
  intro world name
  unfold importModule importEdits
  split
  · next h => cases h
  · next hmodule _ => simp [hmodule]
  · next hmodule hfound _ =>
    simp only [hmodule, hfound]
    rfl
  · next hmodule hfound =>
    simp only [hmodule, hfound]
    rfl
  · next _ _ _ left file hfuel hmodule hfile =>
    obtain rfl : fuel = left := Nat.succ.inj hfuel
    have hrun := hruns { world with
      modules := world.modules.register ⟨.named name, .file file, []⟩ } (.named name) file.dropLast
      (world.files.program file).ending [] (world.files.program file).steps
    simp only [hmodule, hfile]
    rcases hr : runSteps fuel { world with
      modules := world.modules.register ⟨.named name, .file file, []⟩ } (.named name)
      file.dropLast (world.files.program file).ending [] (world.files.program file).steps with
      ⟨failure | ⟨⟩, after⟩
    · rw [hr] at hrun
      exact hrun
    · rw [hr] at hrun
      exact hrun

/-- Programs and imports call each other with less fuel, so the induction is over both at once. -/
lemma runsEdit_and_importsEdit (fuel : ℕ) : RunsEdit fuel ∧ ImportsEdit fuel := by
  induction fuel with
  | zero =>
    constructor
    · intro world module directory ending imported steps
      rw [runSteps, stepsEdits]
      rfl
    · intro world name
      rw [importModule, importEdits]
      · rfl
      · simp
  | succ fuel ih =>
    obtain ⟨hruns, himports⟩ := ih
    exact ⟨runsEdit_succ hruns himports, importsEdit_succ hruns⟩

/-- Loading an entry module puts its directory on the search path, performs the edits and takes the
directory off once. -/
theorem loadEntry_searchPath (world : World) (file : Location) :
    (world.loadEntry file).2.2.searchPath =
      ((world.entryEdits file).foldl PathEdit.apply (file.dropLast :: world.searchPath)).erase
        file.dropLast := by
  obtain ⟨hruns, -⟩ := runsEdit_and_importsEdit world.loadFuel
  have hrun := hruns ({ world with
    entries := world.entries + 1
    modules := world.modules.register ⟨.entry (world.entries + 1), .file file, []⟩ }.enterPath
      0 file.dropLast) (.entry (world.entries + 1)) file.dropLast (world.files.program file).ending []
    (world.files.program file).steps
  exact congrArg (List.erase · file.dropLast) hrun

end World

namespace AppHost
variable {host : AppHost} {directory : Path} {port : ℤ} {world : World}

/-- The entry module that a host loads when it is started in a directory, and the world in which it
loads it, if it comes to that. -/
def loading? (host : AppHost) (directory : Path) (world : World) : Option (Location × World) :=
  match host.source? directory world with
  | none => none
  | some source =>
    let copied := (makeArea world).2.copyInto source (makeArea world).1
    let file := moduleFile (nextCopy world) host.entryModule
    if (world.unreadable.lookup source).isNone && copied.files.isFile file then some (file, copied)
    else none

/-- The edits of the search path that are performed while a host is started. -/
def pathEdits (host : AppHost) (directory : Path) (world : World) : List PathEdit :=
  match host.loading? directory world with
  | some (file, copied) => copied.entryEdits file
  | none => []

lemma loadApp_searchPath (host : AppHost) (copy : Location) (world : World) :
    (host.loadApp copy world).world.searchPath =
      if world.files.isFile (moduleFile copy host.entryModule)
      then (world.loadEntry (moduleFile copy host.entryModule)).2.2.searchPath
      else world.searchPath := by
  unfold loadApp
  by_cases hfile : world.files.isFile (moduleFile copy host.entryModule) = true
  · simp only [hfile, Bool.not_true, Bool.false_eq_true, if_false, if_true]
    split
    · rfl
    · split <;> rfl
  · simp only [hfile, Bool.not_false, if_true, if_false, Bool.false_eq_true]
    rfl

lemma start_loading (host : AppHost) (directory : Path) (port : ℤ) (world : World) :
    (host.start directory port world).world.searchPath =
      match host.loading? directory world with
      | some (file, copied) => (copied.loadEntry file).2.2.searchPath
      | none => world.searchPath := by
  unfold loading?
  cases hsource : host.source? directory world with
  | none =>
    obtain ⟨_, _, -, hstart, log, rfl⟩ := start_of_source?_eq_none hsource port
    rw [hstart]
  | some source =>
    rw [start_of_source? hsource port, (startIn_searchPath ..).1]
    have hmade : (makeArea world).2.unreadable.lookup source =
      world.unreadable.lookup source := rfl
    cases hreadable : world.unreadable.lookup source with
    | some fault =>
      rw [launch_of_unreadable (hmade.trans hreadable)]
      simp [hreadable, makeArea]
    | none =>
      obtain ⟨_, _, _, -, hworld⟩ :=
        launch_of_readable (hmade.trans hreadable) host (makeArea world).1 port
      have hcopy : (makeArea world).1 ++ ["webapp"] = nextCopy world := rfl
      simp only [hworld, hcopy, loadApp_searchPath, hreadable, Option.isNone_none, Bool.true_and]
      split <;> rfl

lemma loading?_eq_some {file : Location} {copied : World}
    (h : host.loading? directory world = some (file, copied)) :
    file = moduleFile (nextCopy world) host.entryModule ∧ copied.searchPath = world.searchPath := by
  unfold loading? at h
  split at h
  · cases h
  · simp only at h
    split_ifs at h
    obtain ⟨rfl, rfl⟩ := Prod.mk.inj (Option.some.inj h)
    exact ⟨rfl, rfl⟩

/-- The search path that a start leaves. -/
theorem start_searchPath (host : AppHost) (directory : Path) (port : ℤ) (world : World) :
    (host.start directory port world).world.searchPath =
      ((host.pathEdits directory world).foldl PathEdit.apply
        (nextCopy world :: world.searchPath)).erase (nextCopy world) := by
  rw [start_loading, pathEdits]
  cases hl : host.loading? directory world with
  | none => exact (List.erase_cons_head ..).symm
  | some loaded =>
    obtain ⟨file, copied⟩ := loaded
    obtain ⟨rfl, hpath⟩ := loading?_eq_some hl
    simp only [World.loadEntry_searchPath, hpath, moduleFile, List.dropLast_concat]

/-- How many entries of the copied directory a start leaves on the search path: as many as there are
after the edits, where one was there before them and one is taken off behind them. -/
def entriesLeft (host : AppHost) (directory : Path) (world : World) : ℕ :=
  (host.pathEdits directory world).foldl PathEdit.count 1 - 1

lemma start_edits (host : AppHost) (directory : Path) (port : ℤ) (world : World) :
    (host.start directory port world).world.searchPath =
      (host.pathEdits directory world ++ [PathEdit.leave (nextCopy world)]).foldl PathEdit.apply
        (nextCopy world :: world.searchPath) := by
  rw [List.foldl_append]
  exact host.start_searchPath directory port world

lemma foldl_count_edits (host : AppHost) (directory : Path) (world : World) :
    (host.pathEdits directory world ++ [PathEdit.leave (nextCopy world)]).foldl
      PathEdit.count 1 = host.entriesLeft directory world := by
  rw [List.foldl_append]
  rfl

lemma forall_mem_edits {P : PathEdit → Prop} (h : ∀ edit ∈ host.pathEdits directory world, P edit)
    (hl : P (.leave (nextCopy world))) :
    ∀ edit ∈ host.pathEdits directory world ++ [PathEdit.leave (nextCopy world)], P edit :=
  List.forall_mem_append.2 ⟨h, List.forall_mem_singleton.2 hl⟩

section Own
variable (habsent : nextCopy world ∉ world.searchPath)
  (hown : ∀ edit ∈ host.pathEdits directory world, edit.directory = nextCopy world)
include habsent hown

lemma start_others (port : ℤ) :
    (host.start directory port world).world.searchPath.filter (· ≠ nextCopy world) =
        world.searchPath ∧
      (host.start directory port world).world.searchPath.count (nextCopy world) =
        host.entriesLeft directory world := by
  have hedited := forall_mem_edits hown rfl
  obtain ⟨hothers, hcount⟩ := PathEdit.foldl_entries (nextCopy world :: world.searchPath) hedited
  rw [start_edits, hothers, hcount, List.filter_cons_of_neg (by simp), List.count_cons_self,
    List.count_eq_zero_of_not_mem habsent, foldl_count_edits]
  refine ⟨List.filter_eq_self.2 fun place hplace => decide_eq_true fun he => ?_, rfl⟩
  exact habsent (he ▸ hplace)

lemma start_inFront (hfront : ∀ edit ∈ host.pathEdits directory world, edit.IsInFront)
    (port : ℤ) : (host.start directory port world).world.searchPath =
      List.replicate (host.entriesLeft directory world) (nextCopy world) ++ world.searchPath := by
  have hedited := forall_mem_edits hown rfl
  have hall := PathEdit.foldl_apply habsent hedited (forall_mem_edits hfront trivial) 1
  rw [foldl_count_edits] at hall
  rw [start_edits]
  exact hall

end Own

/-- What a start leaves on the search path, whatever it comes to, where the programs that run edit
the copied directory alone and nothing of the new working area was on the path. All entries that
were there are left in their order, beside the entries of the copied directory that the programs put
on without taking them off. There are none of these just if the programs put on no more than they
took off. Where the programs put them in front, they stay in front of the others. -/
theorem start_entriesLeft (hnew : ∀ place ∈ world.searchPath, ¬ areaOf (world.areas + 1) <+: place)
    (hown : ∀ edit ∈ host.pathEdits directory world, edit.directory = nextCopy world) (port : ℤ) :
    let after := (host.start directory port world).world.searchPath
    let isOld (place : Location) : Bool := !(areaOf (world.areas + 1)).isPrefixOf place
    after.filter isOld = world.searchPath ∧
    after.count (nextCopy world) = host.entriesLeft directory world ∧
    (∀ place ∈ after, isOld place = true ∨ place = nextCopy world) ∧
    ((∀ place ∈ after, ¬ areaOf (world.areas + 1) <+: place) ↔
      host.entriesLeft directory world = 0) ∧
    ((∀ edit ∈ host.pathEdits directory world, edit.IsInFront) →
      after = List.replicate (host.entriesLeft directory world) (nextCopy world) ++
        world.searchPath) := by
  intro after isOld
  have hbelow : areaOf (world.areas + 1) <+: nextCopy world := List.prefix_append _ _
  have habsent : nextCopy world ∉ world.searchPath := fun hmem => hnew _ hmem hbelow
  obtain ⟨hkept, hnumber⟩ := start_others habsent hown port
  have hisOld (place : Location) : isOld place = true ↔ ¬ areaOf (world.areas + 1) <+: place := by
    simp only [isOld, Bool.not_eq_true', ← Bool.not_eq_true, List.isPrefixOf_iff_prefix]
  have hplaces (place : Location) (hp : place ∈ after) :
      isOld place = true ∨ place = nextCopy world := by
    by_cases he : place = nextCopy world
    · exact Or.inr he
    · have hmem : place ∈ after.filter (· ≠ nextCopy world) :=
        List.mem_filter.2 ⟨hp, decide_eq_true he⟩
      rw [hkept] at hmem
      exact Or.inl ((hisOld place).2 (hnew place hmem))
  refine ⟨?_, hnumber, hplaces, ?_, fun hfront => start_inFront habsent hown hfront port⟩
  · rw [← hkept]
    refine List.filter_congr fun place hp => ?_
    rcases hplaces place hp with hold | rfl
    · have hne : place ≠ nextCopy world := by
        rintro rfl
        exact (hisOld _).1 hold hbelow
      rw [hold, decide_eq_true hne]
    · have hnot : isOld (nextCopy world) = false := by
        rw [← Bool.not_eq_true, hisOld, not_not]
        exact hbelow
      rw [hnot]
      exact (decide_eq_false (not_not.2 rfl)).symm
  · rw [← hnumber, List.count_eq_zero]
    constructor
    · exact fun hclear hmem => hclear _ hmem hbelow
    · intro hnone place hp
      refine (hisOld place).1 ((hplaces place hp).resolve_right ?_)
      rintro rfl
      exact hnone hp

/-- A world with a web application whose program edits the search path. -/
def editing (steps : List LoadStep) (ending : Ending) : World where
  files := [
    (["cwd"], .directory),
    (["cwd", "web"], .directory),
    (["cwd", "web", "app.py"], .module ⟨steps, ending⟩)]

/-- A program that takes its directory off and puts it on again leaves the path as it was. -/
theorem balanced_edits_restored :
    let host : AppHost := { entryModule := "app", appName := "app", host := none }
    let world :=
      editing [.leavePath, .leavePath, .enterPath 0] (.defines [("app", .value (.int 0))])
    (host.start ⟨0, ["web"]⟩ 8181 world).world.searchPath = [] := by
  intro host world
  have hnew : ∀ place ∈ world.searchPath, ¬ areaOf (world.areas + 1) <+: place :=
    fun place hplace => absurd hplace List.not_mem_nil
  have hedits : host.pathEdits ⟨0, ["web"]⟩ world =
      [.leave (nextCopy world), .leave (nextCopy world), .enter 0 (nextCopy world)] := by
    subst world host
    rfl
  have hown : ∀ edit ∈ host.pathEdits ⟨0, ["web"]⟩ world, edit.directory = nextCopy world := by
    simp [hedits, PathEdit.directory]
  have hfront : ∀ edit ∈ host.pathEdits ⟨0, ["web"]⟩ world, edit.IsInFront := by
    simp [hedits, PathEdit.IsInFront]
  have hleft : host.entriesLeft ⟨0, ["web"]⟩ world = 0 := by
    rw [entriesLeft, hedits]
    rfl
  obtain ⟨-, -, -, -, hafter⟩ := start_entriesLeft hnew hown 8181
  replace hafter := hafter hfront
  rwa [hleft] at hafter

/-- A program that puts its directory on once more leaves it on the path, whether it then offers an
application, raises or offers none. -/
theorem added_entry_left :
    let host : AppHost := { entryModule := "app", appName := "app", host := none }
    let left (ending : Ending) : List Location :=
      (host.start ⟨0, ["web"]⟩ 8181 (editing [.enterPath 0] ending)).world.searchPath
    left (.defines [("app", .value (.int 0))]) = [["security-harness-1", "webapp"]] ∧
    left (.raises "RuntimeError" "no") = [["security-harness-1", "webapp"]] ∧
    left (.defines [("app", .absent)]) = [["security-harness-1", "webapp"]] := by
  intro host left
  exact ⟨by decide +kernel, by decide +kernel, by decide +kernel⟩

end AppHost

end MockIssuer
