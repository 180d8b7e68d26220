import Mathlib
import MockIssuer.Host.Basic

/-!
# Working areas

Working areas are numbered and lie right below the top, so two of them have nothing in common. In a
sound world nothing is where the areas and the entry modules to come will be. What is copied into an
area is gone with it: taking the area away gives back the files that there were before.
-/
namespace MockIssuer

namespace FileSystem
variable {files : FileSystem} {top : String} {location : Location}

lemma isPrefixOf_eq_false_iff {area : Location} :
    area.isPrefixOf location = false ↔ ¬ area <+: location := by
  rw [← List.isPrefixOf_iff_prefix, Bool.not_eq_true]

lemma mem_removeTree {area : Location} {pair : Location × Entry} :
    pair ∈ files.removeTree area ↔ pair ∈ files ∧ ¬ area <+: pair.1 := by
  unfold removeTree
  rw [List.mem_filter, Bool.not_eq_true', isPrefixOf_eq_false_iff]

lemma removeTree_put (files : FileSystem) {area location : Location} (h : area <+: location)
    (entry : Entry) : (files.put location entry).removeTree area = files.removeTree area := by
  have hp : area.isPrefixOf location = true := List.isPrefixOf_iff_prefix.2 h
  unfold put removeTree
  rw [List.filter_append, List.filter_filter]
  have hlast : [(location, entry)].filter (fun pair => !area.isPrefixOf pair.1) = [] := by
    simp [hp]
  rw [hlast, List.append_nil]
  refine List.filter_congr fun pair _ => ?_
  by_cases he : pair.1 = location
  · simp [he, hp]
  · simp [he]

/-- The directories above a place in an area lie in the area, apart from the top. -/
lemma removeTree_write (files : FileSystem) (h : [top] <+: location) (entry : Entry) :
    (files.write location entry).removeTree [top] = files.removeTree [top] := by
  unfold write
  rw [removeTree_put _ h]
  unfold addParents
  generalize List.range location.length = depths
  induction depths generalizing files with
  | nil => rfl
  | cons depth rest ih =>
    rw [List.foldl_cons, ih]
    by_cases hp : (files.at? (location.take depth)).isSome = true
    · rw [if_pos hp]
    · rw [if_neg hp]
      refine removeTree_put files ?_ _
      cases depth with
      | zero => exact absurd rfl hp
      | succ depth =>
        obtain ⟨below, rfl⟩ := h
        exact ⟨below.take depth, rfl⟩

lemma removeTree_copyTree (files : FileSystem) (source : Location) (h : [top] <+: location) :
    (files.copyTree source location).removeTree [top] = files.removeTree [top] := by
  unfold copyTree
  rw [← removeTree_write files h .directory]
  generalize files.write location .directory = written
  induction files.below source generalizing written with
  | nil => rfl
  | cons pair rest ih =>
    rw [List.foldl_cons, ih]
    exact removeTree_put written (h.trans (List.prefix_append _ _)) _

lemma at?_copyTree (files : FileSystem) (source : Location) {target : Location}
    (hs : (files.at? location).isSome = true) (hp : ¬ target <+: location) :
    (files.copyTree source target).at? location = files.at? location := by
  have hparents : (files.addParents target).at? location = files.at? location := by
    unfold addParents
    generalize List.range target.length = depths
    induction depths generalizing files with
    | nil => rfl
    | cons depth rest ih =>
      rw [List.foldl_cons]
      by_cases hparent : (files.at? (target.take depth)).isSome = true
      · rw [if_pos hparent, ih files hs]
      · rw [if_neg hparent]
        have hne : location ≠ target.take depth := by
          rintro rfl
          exact hparent hs
        have hput := at?_put_of_ne files .directory hne
        rw [ih _ (by rw [hput]; exact hs), hput]
  have hwritten : (files.write target .directory).at? location = files.at? location := by
    have hne : location ≠ target := by
      rintro rfl
      exact hp List.prefix_rfl
    rw [write, at?_put_of_ne _ _ hne, hparents]
  unfold copyTree
  rw [← hwritten]
  generalize files.write target .directory = written
  induction files.below source generalizing written with
  | nil => rfl
  | cons pair rest ih =>
    rw [List.foldl_cons, ih]
    refine at?_put_of_ne _ _ ?_
    rintro rfl
    exact hp (List.prefix_append _ _)

lemma removeTree_eq_self {area : Location} (h : ∀ pair ∈ files, ¬ area <+: pair.1) :
    files.removeTree area = files := by
  unfold removeTree
  rw [List.filter_eq_self]
  intro pair hpair
  rw [Bool.not_eq_true', isPrefixOf_eq_false_iff]
  exact h pair hpair

lemma at?_eq_of_removeTree {others : FileSystem} {area : Location}
    (h : files.removeTree area = others.removeTree area) (hp : ¬ area <+: location) :
    files.at? location = others.at? location := by
  by_cases hl : location = []
  · rw [hl]
    rfl
  · have hno := isPrefixOf_eq_false_iff.2 hp
    have hfiles := at?_removeTree files area hl
    have hothers := at?_removeTree others area hl
    rw [hno, if_neg Bool.false_ne_true] at hfiles hothers
    rw [← hfiles, ← hothers, h]

lemma at?_removeTree_beside (files : FileSystem) {area : Location}
    (h : ¬ area <+: location) :
    (files.removeTree area).at? location = files.at? location := by
  refine at?_eq_of_removeTree ?_ h
  unfold removeTree
  rw [List.filter_filter]
  exact List.filter_congr fun _ _ => Bool.and_self _

lemma exists_mem_of_isFile (h : files.isFile location = true) :
    ∃ pair ∈ files, pair.1 = location := by
  unfold isFile at? at h
  by_cases hl : location.isEmpty = true
  · rw [if_pos hl] at h
    cases h
  · rw [if_neg hl] at h
    cases hentry : files.lookup location with
    | none =>
      rw [hentry] at h
      cases h
    | some entry =>
      obtain ⟨front, back, rfl, -⟩ := List.lookup_eq_some_iff.1 hentry
      exact ⟨(location, entry), by simp, rfl⟩

end FileSystem

namespace AppHost

/-- The working area of a number. -/
def areaOf (number : ℕ) : Location := [areaStart ++ String.ofList (Number.natText number)]

lemma makeArea_eq (world : World) : makeArea world = (areaOf (world.areas + 1), { world with
    areas := world.areas + 1
    files := world.files.write (areaOf (world.areas + 1)) .directory }) := rfl

lemma areaOf_injective : Function.Injective areaOf := by
  intro first second h
  have htext : areaStart ++ String.ofList (Number.natText first) =
      areaStart ++ String.ofList (Number.natText second) := List.singleton_inj.1 h
  have hdigits : Nat.toDigits 10 first = Nat.toDigits 10 second := by
    have hlist := congrArg String.toList htext
    rw [String.toList_append, String.toList_append] at hlist
    have hsame := List.append_cancel_left hlist
    rwa [String.toList_ofList, String.toList_ofList] at hsame
  have hvalue := congrArg (Nat.ofDigitChars 10 · 0) hdigits
  simpa only [Nat.ofDigitChars_toDigits (by decide : 1 < 10) (by decide : 10 ≤ 10)] using hvalue

lemma areaOf_unique {first second : ℕ} {location : Location}
    (hf : areaOf first <+: location) (hs : areaOf second <+: location) : first = second := by
  refine areaOf_injective ?_
  exact (List.prefix_of_prefix_length_le hf hs (by simp [areaOf])).eq_of_length (by simp [areaOf])

end AppHost

lemma LoadedModule.file_eq_some_iff {module : LoadedModule} {location : Location} :
    module.file = some location ↔ module.source = .file location := by
  unfold file
  cases module.source with
  | file other => simp
  | portions locations => simp

lemma LoadedModule.file_eq_none_iff {module : LoadedModule} :
    module.file = none ↔ ∃ places, module.source = .portions places := by
  unfold file
  cases module.source with
  | file other => simp
  | portions locations => simp

lemma LoadedModule.isBelow_iff {module : LoadedModule} {location : Location} :
    module.isBelow location = true ↔ ∃ file, module.file = some file ∧ location <+: file := by
  unfold isBelow
  cases module.file with
  | none => simp
  | some file => simp

lemma LoadedModule.isFrom_iff {module : LoadedModule} {location : Location} :
    module.isFrom location = true ↔ ∃ place ∈ module.places, location <+: place := by
  simp [isFrom]

/-- A module from a file came from the places that the file is below. -/
lemma LoadedModule.isFrom_iff_isBelow {module : LoadedModule} {file location : Location}
    (h : module.file = some file) :
    module.isFrom location = true ↔ module.isBelow location = true := by
  have hplaces : module.places = [file] := by
    rw [places, file_eq_some_iff.1 h]
  rw [isFrom, isBelow, hplaces, h]
  simp

lemma LoadedModule.eq_of_isBelow {module : LoadedModule} {first second : ℕ}
    (hf : module.isBelow (AppHost.areaOf first) = true)
    (hs : module.isBelow (AppHost.areaOf second) = true) : first = second := by
  obtain ⟨file, hfile, hpf⟩ := isBelow_iff.1 hf
  obtain ⟨other, hother, hps⟩ := isBelow_iff.1 hs
  obtain rfl : file = other := Option.some.inj (hfile.symm.trans hother)
  exact AppHost.areaOf_unique hpf hps

/-- Nothing is where the working areas and the entry modules to come will be. -/
structure World.Sound (world : World) : Prop where
  files : ∀ pair ∈ world.files, ∀ number, AppHost.areaOf number <+: pair.1 → number ≤ world.areas
  modules : ∀ module ∈ world.modules, ∀ number,
    module.isBelow (AppHost.areaOf number) = true → number ≤ world.areas
  entries : ∀ module ∈ world.modules, ∀ number,
    module.name = .entry number → number ≤ world.entries

namespace World.Sound
variable {world : World}

lemma removeTree_next (h : world.Sound) :
    world.files.removeTree (AppHost.areaOf (world.areas + 1)) = world.files := by
  refine FileSystem.removeTree_eq_self fun pair hpair hp => ?_
  have hle := h.files pair hpair _ hp
  omega

lemma mono (h : world.Sound) {after : World} (ha : world.areas ≤ after.areas)
    (he : world.entries ≤ after.entries) (hf : ∀ pair ∈ after.files, pair ∈ world.files)
    (hm : ∀ module ∈ after.modules, module ∈ world.modules) : after.Sound where
  files pair hpair number hp := (h.files pair (hf pair hpair) number hp).trans ha
  modules module hmodule number hb := (h.modules module (hm module hmodule) number hb).trans ha
  entries module hmodule number hn := (h.entries module (hm module hmodule) number hn).trans he

lemma ne_next (h : world.Sound) :
    ∀ module ∈ world.modules, module.name ≠ .entry (world.entries + 1) := by
  intro module hm hname
  have hle := h.entries module hm _ hname
  omega

/-- Files that differ in the next area at most are as sound with this area made. -/
lemma files_of_removeTree (h : world.Sound) {files : FileSystem}
    (hf : files.removeTree (AppHost.areaOf (world.areas + 1)) = world.files) :
    ∀ pair ∈ files, ∀ number, AppHost.areaOf number <+: pair.1 → number ≤ world.areas + 1 := by
  intro pair hpair number hp
  by_cases hnext : AppHost.areaOf (world.areas + 1) <+: pair.1
  · rw [AppHost.areaOf_unique hp hnext]
  · have hmem : pair ∈ world.files := by
      rw [← hf, FileSystem.mem_removeTree]
      exact ⟨hpair, hnext⟩
    have hle := h.files pair hmem number hp
    omega

/-- No working area is in the current directory, so a world with files there alone, in which nothing
was loaded, is sound. -/
lemma of_currentLocation (hf : ∀ pair ∈ world.files, World.currentLocation <+: pair.1)
    (hm : world.modules = []) : world.Sound := by
  refine ⟨fun pair hpair number hp => ?_, fun module hmodule => ?_, fun module hmodule => ?_⟩
  · have hsame : AppHost.areaOf number = World.currentLocation :=
      (List.prefix_of_prefix_length_le hp (hf pair hpair) (by simp [AppHost.areaOf,
        World.currentLocation])).eq_of_length (by simp [AppHost.areaOf, World.currentLocation])
    have htext := congrArg String.toList (List.singleton_inj.1 hsame)
    have hstart : AppHost.areaStart.toList.head? = some 's' := by decide +kernel
    have hcwd : "cwd".toList.head? = some 'c' := by decide +kernel
    rw [← htext, String.toList_append, List.head?_append, hstart] at hcwd
    cases hcwd
  · rw [hm] at hmodule
    cases hmodule
  · rw [hm] at hmodule
    cases hmodule

end World.Sound

end MockIssuer
