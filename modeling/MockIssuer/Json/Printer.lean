import MockIssuer.Json.Basic
import MockIssuer.Number.Shortest
import MockIssuer.Text.Hex

/-!
# JSON text

A value is written in one of a few styles, each a record of the separators and of whether
characters beyond ASCII are escaped. Escapes of characters beyond the basic plane are surrogate
pairs. Control characters are always escaped; in an ASCII text so is the delete character.
-/
namespace MockIssuer.Json

/-- How a JSON text is written. -/
structure Style where
  comma : List Char
  colon : List Char
  ascii : Bool

/-- No spaces, and all characters in ASCII: the parts of a token. -/
def Style.compactAscii : Style := ⟨[','], [':'], true⟩

/-- A space after each separator, and all characters in ASCII: log lines. -/
def Style.spacedAscii : Style := ⟨[',', ' '], [':', ' '], true⟩

/-- No spaces, and characters as they are: response documents. -/
def Style.compact : Style := ⟨[','], [':'], false⟩

def unicodeEscape (unit : Nat) : List Char :=
  '\\' :: 'u' :: Text.hexDigits 4 unit

/-- The escape of a character by one or two units of sixteen bits. -/
def escapeUnits (c : Char) : List Char :=
  if c.toNat < 0x10000 then unicodeEscape c.toNat
  else
    unicodeEscape (0xd800 + (c.toNat - 0x10000) / 0x400) ++
      unicodeEscape (0xdc00 + (c.toNat - 0x10000) % 0x400)

def escapeChar (ascii : Bool) (c : Char) : List Char :=
  if c = '"' then ['\\', '"']
  else if c = '\\' then ['\\', '\\']
  else if c = '\n' then ['\\', 'n']
  else if c = '\r' then ['\\', 'r']
  else if c = '\t' then ['\\', 't']
  else if c.toNat = 0x08 then ['\\', 'b']
  else if c.toNat = 0x0c then ['\\', 'f']
  else if c.toNat < 0x20 then unicodeEscape c.toNat
  else if ascii ∧ 0x7f ≤ c.toNat then escapeUnits c
  else [c]

def stringText (ascii : Bool) (text : List Char) : List Char :=
  '"' :: text.flatMap (escapeChar ascii) ++ ['"']

def floatText (x : Number.Binary64) : List Char :=
  x.text "Infinity" "NaN"

mutual

/-- The text of a value. -/
def print (style : Style) : Json → List Char
  | null => "null".toList
  | bool true => "true".toList
  | bool false => "false".toList
  | int value => Number.intText value
  | float value => floatText value
  | string value => stringText style.ascii value.toList
  | array [] => ['[', ']']
  | array (item :: rest) => '[' :: print style item ++ printItems style rest
  | object [] => ['{', '}']
  | object ((name, value) :: rest) =>
    '{' :: stringText style.ascii name.toList ++ style.colon ++ print style value ++
      printFields style rest

def printItems (style : Style) : List Json → List Char
  | [] => [']']
  | item :: rest => style.comma ++ print style item ++ printItems style rest

def printFields (style : Style) : List (String × Json) → List Char
  | [] => ['}']
  | (name, value) :: rest =>
    style.comma ++ stringText style.ascii name.toList ++ style.colon ++ print style value ++
      printFields style rest

end

mutual

/-- Whether every integer in a value has few enough digits for a text. -/
def isWritable : Json → Bool
  | int value => Number.isWritable value
  | array items => areItemsWritable items
  | object fields => areFieldsWritable fields
  | _ => true

def areItemsWritable : List Json → Bool
  | [] => true
  | item :: rest => item.isWritable && areItemsWritable rest

def areFieldsWritable : List (String × Json) → Bool
  | [] => true
  | (_, value) :: rest => value.isWritable && areFieldsWritable rest

end

theorem isWritable_object (fields : Fields) :
    (object fields).isWritable = fields.all (·.2.isWritable) := by
  rw [isWritable]
  induction fields with
  | nil => rfl
  | cons field rest ih => rw [areFieldsWritable, ih, List.all_cons]

/-- The text of a value as a string. -/
def render (style : Style) (value : Json) : String :=
  String.ofList (print style value)

end MockIssuer.Json
