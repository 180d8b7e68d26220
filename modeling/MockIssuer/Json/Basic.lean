import MockIssuer.Number.Binary64

/-!
# JSON values

A value of the data format. Integers have any size and are told apart from double-precision
numbers. An object keeps its fields in order; `upsert` replaces a field in place or appends it, so
an object that is built by it names no field twice.
-/
namespace MockIssuer

inductive Json where
  | null
  | bool (value : Bool)
  | int (value : Int)
  | float (value : Number.Binary64)
  | string (value : String)
  | array (items : List Json)
  | object (fields : List (String × Json))
  deriving Inhabited, BEq

namespace Json

/-- The fields of an object, in order. -/
abbrev Fields := List (String × Json)

/-- Sets a field: an existing one keeps its place. -/
def upsert {α : Type} (name : String) (value : α) : List (String × α) → List (String × α)
  | [] => [(name, value)]
  | (key, old) :: rest =>
    if key = name then (key, value) :: rest else (key, old) :: upsert name value rest

/-- The fields without those of the given name. -/
def erase {α : Type} (name : String) (fields : List (String × α)) : List (String × α) :=
  fields.filter (·.1 ≠ name)

@[simp] theorem lookup_upsert_self {α : Type} (name : String) (value : α)
    (fields : List (String × α)) : (upsert name value fields).lookup name = some value := by
  induction fields with
  | nil => simp [upsert]
  | cons field rest ih =>
    obtain ⟨other, old⟩ := field
    by_cases h : other = name
    · simp [upsert, h]
    · have hne : (name == other) = false := by simpa using Ne.symm h
      simp [upsert, h, List.lookup_cons, hne, ih]

@[simp] theorem lookup_upsert_of_ne {α : Type} {name key : String} (value : α)
    (fields : List (String × α)) (h : key ≠ name) :
    (upsert name value fields).lookup key = fields.lookup key := by
  induction fields with
  | nil => simp [upsert, h]
  | cons field rest ih =>
    obtain ⟨other, old⟩ := field
    by_cases hf : other = name
    · subst hf
      have : (key == other) = false := by simpa using h
      simp [upsert, List.lookup_cons, this]
    · simp [upsert, hf, List.lookup_cons, ih]

/-- Setting a field keeps the names in their order; a new name goes to the end. -/
theorem keys_upsert {α : Type} (name : String) (value : α) (fields : List (String × α)) :
    (upsert name value fields).map Prod.fst =
      if name ∈ fields.map Prod.fst then fields.map Prod.fst
      else fields.map Prod.fst ++ [name] := by
  induction fields with
  | nil => simp [upsert]
  | cons field rest ih =>
    obtain ⟨other, old⟩ := field
    by_cases h : other = name
    · simp [upsert, h]
    · have hne : name ≠ other := Ne.symm h
      simp only [upsert, if_neg h, List.map_cons, ih, List.mem_cons, hne, false_or]
      split <;> rfl

/-- Of the fields that are set one after the other, the last one of a name counts. -/
theorem lookup_foldl_upsert {α : Type} (changes fields : List (String × α)) (key : String) :
    (changes.foldl (fun fields (name, value) => upsert name value fields) fields).lookup key =
      (changes.reverse.lookup key).or (fields.lookup key) := by
  induction changes generalizing fields with
  | nil => rfl
  | cons change rest ih =>
    obtain ⟨name, value⟩ := change
    have hone : (upsert name value fields).lookup key =
        ([(name, value)].lookup key).or (fields.lookup key) := by
      by_cases h : key = name
      · simp [h]
      · have hne : (key == name) = false := by simpa using h
        simp [h, List.lookup_cons, hne]
    rw [List.foldl_cons, ih, hone, List.reverse_cons, List.lookup_append, Option.or_assoc]

/-- Values that count as absent where a value is tested for truth. -/
def isFalsy : Json → Bool
  | null => true
  | bool value => !value
  | int value => value == 0
  | float value => value == .zero false || value == .zero true
  | string value => value.isEmpty
  | array items => items.isEmpty
  | object fields => fields.isEmpty

def fields : Json → Fields
  | object fields => fields
  | _ => []

/-- The field of an object. -/
def get? (value : Json) (name : String) : Option Json :=
  value.fields.lookup name

mutual

/-- The value with the fields of every object in it in the order of their names. -/
def sortKeys : Json → Json
  | array items => array (sortItems items)
  | object fields => object ((sortFields fields).mergeSort fun a b => decide (a.1 ≤ b.1))
  | value => value

def sortItems : List Json → List Json
  | [] => []
  | item :: rest => sortKeys item :: sortItems rest

def sortFields : List (String × Json) → List (String × Json)
  | [] => []
  | (name, value) :: rest => (name, sortKeys value) :: sortFields rest

end

end Json

end MockIssuer
