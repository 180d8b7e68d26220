import MockIssuer.Json.Basic
import MockIssuer.Number.Shortest
import MockIssuer.Text.Quoted

/-!
# Values in messages

The notation in which messages and console lines show a value: strings are quoted, and the words
for the absent value and for truth are capitalised. `display` shows a string as it is.
-/
namespace MockIssuer.Json

def truthWord (value : Bool) : String :=
  if value then "True" else "False"

mutual

/-- The notation of a value. -/
def literal : Json → String
  | null => "None"
  | bool value => truthWord value
  | int value => String.ofList (Number.intText value)
  | float value => value.render
  | string value => quoted value
  | array [] => "[]"
  | array (item :: rest) => "[" ++ item.literal ++ literalItems rest
  | object [] => "\x7b\x7d"
  | object ((name, value) :: rest) =>
    "\x7b" ++ quoted name ++ ": " ++ value.literal ++ literalFields rest

def literalItems : List Json → String
  | [] => "]"
  | item :: rest => ", " ++ item.literal ++ literalItems rest

def literalFields : List (String × Json) → String
  | [] => "\x7d"
  | (name, value) :: rest => ", " ++ quoted name ++ ": " ++ value.literal ++ literalFields rest

end

/-- The notation of a value in running text. -/
def display : Json → String
  | string value => value
  | value => value.literal

/-- Several values in brackets. -/
def tuple (values : List Json) : String :=
  "(" ++ String.intercalate ", " (values.map literal) ++ ")"

/-- The word for the type of a value. -/
def typeWord : Json → String
  | null => "NoneType"
  | bool _ => "bool"
  | int _ => "int"
  | float _ => "float"
  | string _ => "str"
  | array _ => "list"
  | object _ => "dict"

end MockIssuer.Json
