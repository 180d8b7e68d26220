import MockIssuer.Files.FileSystem

/-!
# Modules given as text

The text of a module that is a straight line of statements: imports of what the search path is
edited with, edits of it with the module's own directory, imports of siblings, and names bound to a
number or to nothing. Such a text is read as the program that it is if it takes any steps; any other
text stays a text.
-/
namespace MockIssuer

inductive Statement where
  /-- Imports a name from outside the application. -/
  | brings (name : String)
  | edits (step : LoadStep)
  /-- Imports a sibling. -/
  | imports (name : String)
  | binds (name : String) (definition : Definition)

namespace Statement

/-- The names that hosts and importing modules look for. -/
def offeredNames : List String := ["app", "VALUE"]

/-- What a name is bound to: nothing, or a number without leading zeros. -/
def definition? (text : String) : Option Definition :=
  if text = "None" then some .absent
  else if text = "0" then some (.value (.int 0))
  else if text.toList.all Char.isDigit && text.toList.head?.any (· != '0') then
    text.toNat?.map fun number => .value (.int number)
  else none

/-- Words that are no names. -/
def reservedWords : List String :=
  ["and", "as", "assert", "async", "await", "break", "class", "continue", "def", "del", "elif",
    "else", "except", "finally", "for", "from", "global", "if", "import", "in", "is", "lambda",
    "nonlocal", "not", "or", "pass", "raise", "return", "try", "while", "with", "yield", "False",
    "None", "True"]

/-- Whether a word is the name of a module that hides none of the names that are offered. -/
def isSibling (word : String) : Bool :=
  word.toList.all (fun c => c.isAlphanum || c == '_') && word.toList.head?.any (!·.isDigit) &&
    !reservedWords.contains word && !offeredNames.contains word

/-- The statement on a line. -/
def ofLine? : String → Option Statement
  | "import sys" => some (.brings "sys")
  | "from pathlib import Path" => some (.brings "Path")
  | "sys.path.insert(0, str(Path(__file__).parent))" => some (.edits (.enterPath 0))
  | "sys.path.remove(str(Path(__file__).parent))" => some (.edits .leavePath)
  | line =>
    match (line.toList.splitOn ' ').map String.ofList with
    | ["import", name] => if isSibling name then some (.imports name) else none
    | [name, "=", text] =>
      if offeredNames.contains name then (definition? text).map (.binds name) else none
    | _ => none

end Statement

namespace Program

/-- What was read of a module so far. -/
structure Draft where
  brought : List String := []
  /-- How often the module's directory is on the search path at least. -/
  entries : Nat := 1
  steps : List LoadStep := []
  names : List (String × Definition) := []

/-- A draft with one statement more. An edit needs the names that it is written with, and the
directory is only taken off where it is on. -/
def Draft.add? (draft : Draft) : Statement → Option Draft
  | .brings name => some { draft with brought := name :: draft.brought }
  | .imports name => some { draft with steps := draft.steps ++ [.importModule name] }
  | .binds name definition =>
    some { draft with names := draft.names.filter (·.1 ≠ name) ++ [(name, definition)] }
  | .edits step =>
    if ["sys", "Path"].all draft.brought.contains then
      let steps := draft.steps ++ [step]
      match step, draft.entries with
      | .enterPath _, entries => some { draft with steps := steps, entries := entries + 1 }
      | .leavePath, entries + 1 => some { draft with steps := steps, entries := entries }
      | _, _ => none
    else none

/-- The program that a text is, if it can be read. -/
def ofText? (text : String) : Option Program :=
  let lines := ((text.toList.splitOn '\n').map String.ofList).filter (· ≠ "")
  ((lines.mapM Statement.ofLine?).bind (·.foldlM Draft.add? {})).map fun draft =>
    ⟨draft.steps, .defines draft.names⟩

end Program

/-- The entry for a text under the name of its file. -/
def Entry.ofText (name text : String) : Entry :=
  match if name.endsWith ".py" then Program.ofText? text else none with
  | some ⟨step :: rest, ending⟩ => .module ⟨step :: rest, ending⟩
  | _ => .file (Text.encodeUtf8 text.toList)

end MockIssuer
