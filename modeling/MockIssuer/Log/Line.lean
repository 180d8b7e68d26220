import MockIssuer.Failure.Basic
import MockIssuer.Json.Printer
import MockIssuer.Log.Event

/-!
# Log lines

A record is an event on its way through a logger. Its line is either one JSON object, with the
given fields first, or a coloured line for a terminal: columns for the time, the level, the event
and the logger, then the fields in the order of their names. The time is always shown by a mark.
-/
namespace MockIssuer.Log

/-- How records become lines. -/
inductive Renderer where
  | json
  | console
  deriving DecidableEq, Repr

structure Record where
  logger : Option String
  level : Level
  event : Json
  fields : Json.Fields

/-- What stands for the time of a record. -/
def timeMark : String := "<TIME>"

/-- Sets a field unless its value is null. -/
def upsertPresent (name : String) (value : Json) (fields : Json.Fields) : Json.Fields :=
  match value with
  | .null => fields
  | value => Json.upsert name value fields

/-- The fields of a line. A given field with the name of one that every line has keeps its place
and not its value; the request to describe the failure that is being handled is dropped, as none
is. -/
def Record.row (record : Record) : Json.Fields :=
  let given := upsertPresent "event" record.event (Json.erase "exc_info" record.fields)
  let leveled := Json.upsert "level" (.string record.level.name) given
  let named := match record.logger with
    | some logger => Json.upsert "logger" (.string logger) leveled
    | none => leveled
  Json.upsert "timestamp" (.string timeMark) named

/-! ### Lines for a terminal -/

def reset : String := "\x1b[0m"
def bright : String := "\x1b[1m"
def faint : String := "\x1b[2m"
def red : String := "\x1b[31m"
def green : String := "\x1b[32m"
def yellow : String := "\x1b[33m"
def blue : String := "\x1b[34m"
def magenta : String := "\x1b[35m"
def cyan : String := "\x1b[36m"

def Level.color : Level → String
  | debug | info => green
  | warning => yellow
  | error | critical => red

/-- The text with blanks after it up to the given width. -/
def padded (width : Nat) (text : String) : String :=
  text ++ String.ofList (List.replicate (width - text.length) ' ')

/-- Strings with one of these are quoted on a terminal. -/
def needsQuotes (text : String) : Bool :=
  text.toList.any [' ', '\t', '=', '\r', '\n', '"', '\''].contains

/-- A value on a terminal: a string that cannot be mistaken stands without quotes. -/
def shownValue : Json → String
  | .string text => if needsQuotes text then quoted text else text
  | value => value.literal

def levelColumn (level : Level) : String :=
  "[" ++ level.color ++ bright ++ padded 9 level.name ++ reset ++ "]"

def eventColumn (event : Json) : String :=
  bright ++ padded 30 event.display ++ reset

def loggerColumn (logger : Json) : String :=
  "[" ++ reset ++ bright ++ blue ++ logger.display ++ reset ++ "]" ++ reset

def fieldColumn (name : String) (value : Json) : String :=
  cyan ++ name ++ reset ++ "=" ++ magenta ++ shownValue value ++ reset

/-- The columns that come first, in their order. -/
def leadingColumns (level : Level) : List (String × (Json → String)) :=
  [("timestamp", fun time => faint ++ time.display ++ reset), ("level", fun _ => levelColumn level),
    ("event", eventColumn), ("logger", loggerColumn), ("logger_name", loggerColumn)]

/-- Fields that stand in no column: they are shown below the line. -/
def blockNames : List String := ["stack", "exception"]

/-- The columns of a row. -/
def columns (level : Level) (row : Json.Fields) : List String :=
  let leading := leadingColumns level
  let others := row.filter fun (name, _) =>
    !(leading.map Prod.fst).contains name && !blockNames.contains name
  leading.filterMap (fun (name, shown) => (row.lookup name).map shown) ++
    (others.mergeSort fun a b => decide (a.1 ≤ b.1)).map fun (name, value) =>
      fieldColumn name value

/-- A block below a line. It has to be a text. -/
def block (value : Json) : Except Failure String :=
  match value with
  | .null => .ok ""
  | .string text => .ok ("\n" ++ text)
  | value => .error (.wrongType (.concatenation value.typeWord))

/-- The rule between the blocks of a line. -/
def blockRule : String := "\n\n" ++ String.ofList (List.replicate 79 '=') ++ "\n"

/-- What stands below a line: a stack, a failure, and a rule between both. -/
def blocks (row : Json.Fields) : Except Failure String := do
  let stack := (row.lookup "stack").getD .null
  let failure := (row.lookup "exception").getD .null
  let rule := match stack, failure with
    | .null, _ => ""
    | _, .null => ""
    | _, _ => blockRule
  return (← block stack) ++ rule ++ (← block failure)

/-- The line of a record. -/
def Record.line (renderer : Renderer) (record : Record) : Except Failure String :=
  match renderer with
  | .json => .ok ((Json.object record.row).render .spacedAscii)
  | .console => do
    let below ← blocks record.row
    return String.intercalate " " (columns record.level record.row) ++ below

end MockIssuer.Log
