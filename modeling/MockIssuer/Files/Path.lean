/-!
# Paths

A path is a number of leading slashes, of which one or two count, and a run of components. Empty
components and single dots vanish when a path is read; two dots stay. `text` is the normal form.
-/
namespace MockIssuer

structure Path where
  slashes : Nat
  components : List String
  deriving DecidableEq

namespace Path

/-- The parts of a text between slashes. -/
def splitSlashes (text : String) : List String :=
  (text.toList.splitOn '/').map String.ofList

/-- Exactly two leading slashes stay two; more of them count as one. -/
def leadingSlashes (text : String) : Nat :=
  match (text.toList.takeWhile (· == '/')).length with
  | 0 => 0
  | 2 => 2
  | _ => 1

def ofString (text : String) : Path where
  slashes := leadingSlashes text
  components := (splitSlashes text).filter fun part => part ≠ "" && part ≠ "."

def isAbsolute (path : Path) : Bool := path.slashes != 0

/-- The normal form of a path; the empty path is a single dot. -/
def text (path : Path) : String :=
  let joined := String.intercalate "/" path.components
  if path.slashes = 0 then (if path.components.isEmpty then "." else joined)
  else String.ofList (List.replicate path.slashes '/') ++ joined

/-- A path seen from a directory; an absolute path stays as it is. -/
def resolveFrom (directory path : Path) : Path :=
  if path.isAbsolute then path else ⟨directory.slashes, directory.components ++ path.components⟩

def hasNul (path : Path) : Bool :=
  path.components.any (·.toList.contains (Char.ofNat 0))

end Path

end MockIssuer
