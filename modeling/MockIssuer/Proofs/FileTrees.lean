import MockIssuer.Proofs.WorkingAreas

/-!
# Trees of files

Files form a tree if every location has one entry at most. A copy of such a tree at a place where
there was nothing holds what the tree holds (`sameTree_copyTree`). Writing and deleting leave alone
what is elsewhere (`FileEdit.at?_apply`), and what they do beside an area does not depend on what is
in the area (`FileEdit.removeTree_foldl_apply`).
-/
namespace MockIssuer

namespace FileSystem
variable {files : FileSystem} {location other : Location}

/-- Files with one entry at a location at most. -/
def IsTree (files : FileSystem) : Prop := (files.map Prod.fst).Nodup

instance (files : FileSystem) : Decidable files.IsTree :=
  inferInstanceAs (Decidable (files.map Prod.fst).Nodup)

/-- Below two locations there is the same. -/
def SameTree (files : FileSystem) (location : Location) (others : FileSystem) (other : Location) :
    Prop :=
  ∀ rest, files.at? (location ++ rest) = others.at? (other ++ rest)

namespace IsTree

lemma filter (h : files.IsTree) (p : Location × Entry → Bool) : IsTree (files.filter p) :=
  h.sublist (List.filter_sublist.map _)

lemma put (h : files.IsTree) (location : Location) (entry : Entry) :
    (files.put location entry).IsTree := by
  unfold IsTree FileSystem.put
  rw [List.map_append]
  refine List.nodup_append.2 ⟨h.filter _, List.nodup_singleton _, ?_⟩
  rintro kept hkept last hlast rfl
  obtain ⟨pair, hpair, rfl⟩ := List.mem_map.1 hkept
  have hne := (List.mem_filter.1 hpair).2
  simp only [List.map_cons, List.map_nil, List.mem_singleton] at hlast
  simp [hlast] at hne

lemma below (h : files.IsTree) (location : Location) : (files.below location).IsTree := by
  unfold IsTree FileSystem.below
  induction files with
  | nil => exact List.nodup_nil
  | cons first rest ih =>
    obtain ⟨place, entry⟩ := first
    obtain ⟨hfirst, hrest⟩ := List.nodup_cons.1 h
    rw [List.filterMap_cons]
    by_cases hp : location.isPrefixOf place = true
    · simp only [hp, if_true, List.map_cons]
      refine List.nodup_cons.2 ⟨fun hmem => hfirst ?_, ih hrest⟩
      obtain ⟨⟨dropped, found⟩, hfound, hdropped⟩ := List.mem_map.1 hmem
      obtain ⟨⟨again, entry'⟩, hagain, hpair⟩ := List.mem_filterMap.1 hfound
      simp only at hpair hdropped
      split_ifs at hpair with hp'
      obtain ⟨rfl, rfl⟩ := Prod.mk.inj (Option.some.inj hpair)
      obtain ⟨back, rfl⟩ := List.isPrefixOf_iff_prefix.1 hp
      obtain ⟨back', rfl⟩ := List.isPrefixOf_iff_prefix.1 hp'
      simp only [List.drop_left] at hdropped
      rw [← hdropped]
      exact List.mem_map.2 ⟨_, hagain, rfl⟩
    · simp only [Bool.not_eq_true] at hp
      simp only [hp, Bool.false_eq_true, if_false]
      exact ih hrest

end IsTree

lemma lookup_below (files : FileSystem) (location rest : Location) :
    (files.below location).lookup rest = files.lookup (location ++ rest) := by
  unfold below
  induction files with
  | nil => rfl
  | cons first others ih =>
    obtain ⟨place, entry⟩ := first
    rw [List.filterMap_cons]
    by_cases hp : location.isPrefixOf place = true
    · obtain ⟨back, rfl⟩ := List.isPrefixOf_iff_prefix.1 hp
      simp only [hp, if_true, List.drop_left, List.lookup_cons, ih]
      by_cases hb : rest = back
      · subst hb
        simp
      · have hne : (location ++ rest == location ++ back) = false := by simp [hb]
        have hne' : (rest == back) = false := by simp [hb]
        rw [hne, hne']
    · have hne : (location ++ rest == place) = false := by
        rw [beq_eq_false_iff_ne]
        rintro rfl
        exact hp (List.isPrefixOf_iff_prefix.2 (List.prefix_append _ _))
      simp only [Bool.not_eq_true] at hp
      simp only [hp, Bool.false_eq_true, if_false, ih, List.lookup_cons, hne]

lemma at?_addParents (h : ¬ other <+: location) :
    (files.addParents location).at? other = files.at? other := by
  unfold addParents
  generalize hdepths : List.range location.length = depths
  clear hdepths
  induction depths generalizing files with
  | nil => rfl
  | cons depth rest ih =>
    rw [List.foldl_cons, ih]
    by_cases hp : (files.at? (location.take depth)).isSome = true
    · rw [if_pos hp]
    · rw [if_neg hp]
      refine at?_put_of_ne files .directory ?_
      rintro rfl
      exact h (List.take_prefix _ _)

lemma at?_write (h : ¬ other <+: location) (entry : Entry) :
    (files.write location entry).at? other = files.at? other := by
  have hne : other ≠ location := by
    rintro rfl
    exact h List.prefix_rfl
  rw [write, at?_put_of_ne _ _ hne, at?_addParents h]

lemma at?_foldl_put {target : Location} (ht : target ≠ []) {copied : FileSystem}
    (hc : copied.IsTree) (rest : Location) :
    (copied.foldl (fun files (below, entry) => files.put (target ++ below) entry) files).at?
        (target ++ rest) =
      (copied.lookup rest).or (files.at? (target ++ rest)) := by
  have hne (below : Location) : target ++ below ≠ [] := fun h => ht (List.append_eq_nil_iff.1 h).1
  induction copied generalizing files with
  | nil => rfl
  | cons first others ih =>
    obtain ⟨place, entry⟩ := first
    obtain ⟨hfirst, hothers⟩ := List.nodup_cons.1 hc
    rw [List.foldl_cons, ih hothers, List.lookup_cons]
    by_cases hp : rest = place
    · subst hp
      have hnone : others.lookup rest = none := by
        refine List.lookup_eq_none_iff.2 fun pair hpair => ?_
        rw [bne_iff_ne]
        rintro rfl
        exact hfirst (List.mem_map.2 ⟨_, hpair, rfl⟩)
      rw [hnone, at?_put_self _ _ (hne rest), beq_self_eq_true]
      rfl
    · have hbeq : (rest == place) = false := by simp [hp]
      rw [hbeq, at?_put_of_ne _ _ (by simp [hp])]

/-- A copy at a place where there was nothing holds what the directory holds. -/
theorem sameTree_copyTree {source target : Location} (h : files.IsTree) (hs : source ≠ [])
    (hd : files.isDirectory source = true) (ht : target ≠ [])
    (hfree : ∀ rest, files.at? (target ++ rest) = none) :
    SameTree (files.copyTree source target) target files source := by
  intro rest
  have hsource : files.at? (source ++ rest) = files.lookup (source ++ rest) := by
    simp [at?, hs]
  rw [copyTree, at?_foldl_put ht (h.below source), lookup_below, hsource]
  cases hlookup : files.lookup (source ++ rest) with
  | some entry => rfl
  | none =>
    rw [Option.none_or]
    cases rest with
    | nil =>
      rw [List.append_nil] at hsource hlookup
      unfold isDirectory at hd
      rw [hsource, hlookup] at hd
      cases hd
    | cons name rest =>
      refine (at?_write (fun hp => ?_) _).trans (hfree _)
      have hle := hp.length_le
      simp at hle

section Beside
variable {area : Location}

lemma removeTree_put_beside (files : FileSystem) (h : ¬ area <+: location) (entry : Entry) :
    (files.put location entry).removeTree area = (files.removeTree area).put location entry := by
  have hlast : [(location, entry)].filter (fun pair => !area.isPrefixOf pair.1) =
      [(location, entry)] := by
    rw [List.filter_singleton, isPrefixOf_eq_false_iff.2 h]
    rfl
  unfold put removeTree
  rw [List.filter_append, hlast, List.filter_comm]

lemma removeTree_addParents_beside (files : FileSystem) (h : ¬ area <+: location) :
    (files.addParents location).removeTree area = (files.removeTree area).addParents location := by
  unfold addParents
  generalize List.range location.length = depths
  induction depths generalizing files with
  | nil => rfl
  | cons depth rest ih =>
    have hparent : ¬ area <+: location.take depth := fun hp => h (hp.trans (List.take_prefix _ _))
    rw [List.foldl_cons, List.foldl_cons, ih]
    simp only [at?_removeTree_beside files hparent]
    by_cases hp : (files.at? (location.take depth)).isSome = true
    · rw [if_pos hp, if_pos hp]
    · rw [if_neg hp, if_neg hp, removeTree_put_beside files hparent]

end Beside

end FileSystem

/-- A change of the files, by somebody. -/
inductive FileEdit where
  | write (place : Location) (entry : Entry)
  | delete (place : Location)

namespace FileEdit
variable {area location : Location}

/-- The location that is written or deleted. -/
def place : FileEdit → Location
  | write place _ | delete place => place

def apply (files : FileSystem) : FileEdit → FileSystem
  | write place entry => files.write place entry
  | delete place => files.removeTree place

/-- An edit changes nothing at places that are not above or below its location. -/
lemma at?_apply (files : FileSystem) {edit : FileEdit} (ha : ¬ location <+: edit.place)
    (hb : ¬ edit.place <+: location) : (edit.apply files).at? location = files.at? location := by
  cases edit with
  | write place entry => exact FileSystem.at?_write ha entry
  | delete place =>
    exact FileSystem.at?_removeTree_beside files hb

/-- An edit beside an area does not depend on what is in the area. -/
lemma removeTree_apply (files : FileSystem) {edit : FileEdit} (h : ¬ area <+: edit.place) :
    (edit.apply files).removeTree area = edit.apply (files.removeTree area) := by
  cases edit with
  | write place entry =>
    have hplace : ¬ area <+: place := h
    rw [apply, apply, FileSystem.write, FileSystem.removeTree_put_beside _ hplace,
      FileSystem.removeTree_addParents_beside _ hplace]
    rfl
  | delete place => exact List.filter_comm ..

lemma removeTree_foldl_apply {edits : List FileEdit} (h : ∀ edit ∈ edits, ¬ area <+: edit.place)
    (files : FileSystem) :
    (edits.foldl apply files).removeTree area = edits.foldl apply (files.removeTree area) := by
  induction edits generalizing files with
  | nil => rfl
  | cons edit rest ih =>
    rw [List.foldl_cons, List.foldl_cons, ← removeTree_apply files (h edit List.mem_cons_self)]
    exact ih (fun other ho => h other (List.mem_cons_of_mem _ ho)) _

end FileEdit

end MockIssuer
