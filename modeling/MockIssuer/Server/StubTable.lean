import MockIssuer.Stub

/-!
# The stub table

The stubs of a server, at most one for a method and a path, in the order in which these were first
registered. `find?_register` says what a registration changes: the answer for its own method and
path, and no other.
-/
namespace MockIssuer

/-- Whether a stub stands for a method and a path. -/
def Stub.isFor (stub : Stub) (method path : String) : Bool :=
  stub.method == method && stub.path == path

abbrev StubTable := List Stub

namespace StubTable

/-- Puts a stub into the place of the one for the same method and path, or at the end. -/
def register (table : StubTable) (stub : Stub) : StubTable :=
  match table with
  | [] => [stub]
  | old :: rest =>
    if old.isFor stub.method stub.path then stub :: rest else old :: register rest stub

def find? (table : StubTable) (method path : String) : Option Stub :=
  List.find? (·.isFor method path) table

theorem find?_register (table : StubTable) (stub : Stub) (method path : String) :
    (table.register stub).find? method path =
      if stub.isFor method path then some stub else table.find? method path := by
  induction table with
  | nil => cases h : stub.isFor method path <;> simp [register, find?, h]
  | cons old rest ih =>
    by_cases same : old.isFor stub.method stub.path
    · have equal : old.method = stub.method ∧ old.path = stub.path := by
        simpa [Stub.isFor] using same
      have : old.isFor method path = stub.isFor method path := by
        simp [Stub.isFor, equal]
      cases h : stub.isFor method path <;> simp_all [register, find?]
    · cases h : old.isFor method path with
      | false => simp_all [register, find?]
      | true =>
        have : stub.isFor method path = false := by
          simp only [Stub.isFor, Bool.and_eq_true, beq_iff_eq] at h same
          simp only [Stub.isFor, Bool.and_eq_false_iff, beq_eq_false_iff_ne]
          grind
        simp_all [register, find?]

/-- The stub for a request: one for the whole target, or else one for the path without the query. -/
def answer? (table : StubTable) (method path query : String) : Option Stub :=
  if query.isEmpty then table.find? method path
  else (table.find? method (path ++ "?" ++ query)).or (table.find? method path)

end StubTable

/-- The path of a request with its query, if it has one. -/
def targetOf (path query : String) : String :=
  if query.isEmpty then path else path ++ "?" ++ query

end MockIssuer
