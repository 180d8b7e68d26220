import MockIssuer.Config.Violation
import MockIssuer.Files.Path
import MockIssuer.Json.Literal
import MockIssuer.Number.Reading
import MockIssuer.Service

/-!
# Untyped field values

What a record is made from: a value under each field's name, of any type. Each coercion turns a
value into one of a field's type or says what is wrong with it. Numbers and truth values are taken
from several types and from text; strings are taken as they are only.
-/
namespace MockIssuer

inductive Raw where
  | json (value : Json)
  | service (value : Service)
  | path (value : Path)
  /-- An object that no field takes, by the word for its type. -/
  | object (type : String)

namespace Raw

/-- The fields of a record, by name. -/
abbrev Fields := List (String × Raw)

def typeWord : Raw → String
  | json value => value.typeWord
  | service _ => "Service"
  | path _ => "PosixPath"
  | object type => type

def asciiDigit? (c : Char) : Option Nat :=
  if c.isDigit then some (c.toNat - 0x30) else none

/-- The text without a point and zeros at its end. -/
def dropPointZeros (text : List Char) : List Char :=
  match text.span (· != '.') with
  | (whole, '.' :: zeros) => if !zeros.isEmpty && zeros.all (· == '0') then whole else text
  | _ => text

/-- An integer in text: blanks around it, a sign, grouped digits, and zeros after a point. -/
def integerOfText (text : List Char) : Except Problem Int :=
  let (negative, body) := Number.splitSign (Text.trim Text.isWhite text)
  match Number.groupedDigits? asciiDigit? (dropPointZeros body) with
  | none => .error .notIntegerText
  | some digits =>
    if Number.digitLimit < digits.length then .error .tooLarge
    else .ok (Number.withSign negative (Number.ofDigits digits))

/-- The numbers of a signed word of 64 bits are below this one, and not below its negative. -/
def wordBound : Nat := 0x8000000000000000

def fitsWord (n : Int) : Bool := -(wordBound : Int) ≤ n && n < wordBound

def integerOfFloat (x : Number.Binary64) : Except Problem Int :=
  if !x.isFinite then .error .notFinite
  else if !x.isIntegral then .error .fractional
  else if x.truncate.natAbs < wordBound then .ok x.truncate
  else .error .tooLarge

def integer : Raw → Except Problem Int
  | json (.int n) => .ok n
  | json (.bool value) => .ok (if value then 1 else 0)
  | json (.float x) => integerOfFloat x
  | json (.string text) => integerOfText text.toList
  | service value => integerOfText value.name.toList
  | _ => .error .notAnInteger

/-- An integer between two bounds. -/
def integerWithin (lo hi : Int) (value : Raw) : Except Problem Int :=
  match value.integer with
  | .error problem => .error problem
  | .ok n => if n < lo then .error (.below lo) else if hi < n then .error (.above hi) else .ok n

def boolOfInt (n : Int) : Except Problem Bool :=
  if n = 0 then .ok false
  else if n = 1 then .ok true
  else if fitsWord n then .error .notBooleanText
  else .error .notABoolean

def falseWords : List String := ["0", "off", "f", "false", "n", "no"]

def trueWords : List String := ["1", "on", "t", "true", "y", "yes"]

def boolOfText (text : String) : Except Problem Bool :=
  let word := String.ofList (text.toList.map Char.toLower)
  if falseWords.contains word then .ok false
  else if trueWords.contains word then .ok true
  else .error .notBooleanText

def boolean : Raw → Except Problem Bool
  | json (.bool value) => .ok value
  | json (.int n) => boolOfInt n
  | json (.float x) =>
    match integerOfFloat x with
    | .ok n => boolOfInt n
    | .error _ => .error .notABoolean
  | json (.string text) => boolOfText text
  | service value => boolOfText value.name
  | _ => .error .notABoolean

def string : Raw → Except Problem String
  | json (.string text) => .ok text
  | service value => .ok value.name
  | _ => .error .notAString

def nonemptyString (value : Raw) : Except Problem String :=
  match value.string with
  | .ok text => if text.isEmpty then .error .tooShort else .ok text
  | .error problem => .error problem

/-- A value that may be absent. -/
def optional {α : Type} (coerce : Raw → Except Problem α) : Raw → Except Problem (Option α)
  | json .null => .ok none
  | value => (coerce value).map some

def toService : Raw → Except Problem Service
  | service value => .ok value
  | json (.string text) =>
    match Service.ofName? text with
    | some value => .ok value
    | none => .error .notAChoice
  | _ => .error .notAChoice

def toPath : Raw → Except Problem Path
  | path value => .ok value
  | json (.string text) => .ok (.ofString text)
  | service value => .ok (.ofString value.name)
  | _ => .error .notAPath

/-- The path that a value makes outside of a record: a service is shown with its type there. -/
def pathOf : Raw → Except Problem Path
  | service value => .ok (.ofString ("Service." ++ value.name))
  | value => value.toPath

def toObject : Raw → Except Problem Json.Fields
  | json (.object fields) => .ok fields
  | _ => .error .notAnObject

/-- The coerced value of a field, or its default where it is missing. -/
def field {α : Type} (fields : Fields) (name : String) (coerce : Raw → Except Problem α)
    (default : Option α) : Except Problem α :=
  match fields.lookup name, default with
  | some value, _ => coerce value
  | none, some value => .ok value
  | none, none => .error .missing

/-- The violation of a field that was refused. -/
def violation? {α : Type} (name : String) (result : Except Problem α) : Option Violation :=
  match result with
  | .ok _ => none
  | .error problem => some ⟨some name, problem⟩

end Raw

end MockIssuer
