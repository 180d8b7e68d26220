import MockIssuer.Json.Basic
import MockIssuer.Number.Reading
import MockIssuer.Text.Hex

/-!
# Reading JSON text

A recursive reader over the characters of a text. Every function answers what it read and the rest
of the text. Nesting is bounded by fuel; the length of the text is enough, since every step of the
recursion leaves a character behind. A field that an object names twice keeps its first place and
its last value.
-/
namespace MockIssuer.Json

def skipSpace : List Char → List Char
  | [] => []
  | c :: rest =>
    if c == ' ' || c == '\n' || c == '\t' || c == '\r' then skipSpace rest else c :: rest

/-- The unit of sixteen bits that four hexadecimal digits stand for. -/
def unit? (a b c d : Char) : Option Nat :=
  Text.hexNumber? [a, b, c, d]

def isHighSurrogate (n : Nat) : Bool := 0xd800 ≤ n && n ≤ 0xdbff

def isLowSurrogate (n : Nat) : Bool := 0xdc00 ≤ n && n ≤ 0xdfff

/-- The character of a surrogate pair. -/
def pairChar (high low : Nat) : Char :=
  Char.ofNat (0x10000 + (high - 0xd800) * 0x400 + (low - 0xdc00))

/-- The character of a single unit; a lone surrogate becomes the replacement character. -/
def unitChar (n : Nat) : Char :=
  if isHighSurrogate n || isLowSurrogate n then Char.ofNat 0xfffd else Char.ofNat n

/-- The character that a letter after a backslash stands for. -/
def simpleEscape? (c : Char) : Option Char :=
  match c with
  | '"' => some '"'
  | '\\' => some '\\'
  | '/' => some '/'
  | 'b' => some (Char.ofNat 0x08)
  | 'f' => some (Char.ofNat 0x0c)
  | 'n' => some '\n'
  | 'r' => some '\r'
  | 't' => some '\t'
  | _ => none

def prepend (c : Char) (result : Option (List Char × List Char)) : Option (List Char × List Char) :=
  result.map fun (text, rest) => (c :: text, rest)

/-- The character of an escape and what follows it, where the text starts after the backslash. -/
def readEscape : List Char → Option (Char × List Char)
  | 'u' :: a :: b :: c :: d :: rest =>
    match unit? a b c d, rest with
    | some high, '\\' :: 'u' :: e :: f :: g :: h :: rest' =>
      match unit? e f g h with
      | some low =>
        if isHighSurrogate high && isLowSurrogate low then some (pairChar high low, rest')
        else some (unitChar high, rest)
      | none => some (unitChar high, rest)
    | some n, rest => some (unitChar n, rest)
    | none, _ => none
  | c :: rest => (simpleEscape? c).map (·, rest)
  | [] => none

/-- The text up to the closing quote, of which the opening one has been read. -/
def readString (fuel : Nat) (text : List Char) : Option (List Char × List Char) :=
  match fuel, text with
  | 0, _ => none
  | _, [] => none
  | fuel + 1, c :: rest =>
    if c = '"' then some ([], rest)
    else if c = '\\' then
      match readEscape rest with
      | some (c, rest) => prepend c (readString fuel rest)
      | none => none
    else if c.toNat < 0x20 then none
    else prepend c (readString fuel rest)

/-- The longest run of ASCII digits, and the rest. -/
def takeDigits (text : List Char) : List Char × List Char :=
  text.span Char.isDigit

def digitValues (digits : List Char) : List Nat :=
  digits.map fun c => c.toNat - 0x30

/-- The fraction digits after a point, where at least one follows it. -/
def readFraction (text : List Char) : Option (List Char) × List Char :=
  match text with
  | '.' :: rest =>
    match takeDigits rest with
    | ([], _) => (none, text)
    | (digits, rest) => (some digits, rest)
  | _ => (none, text)

/-- The exponent, where digits follow its mark. -/
def readPower (text : List Char) : Option Int × List Char :=
  match text with
  | e :: rest =>
    if e == 'e' || e == 'E' then
      let (negative, body) := Number.splitSign rest
      match takeDigits body with
      | ([], _) => (none, text)
      | (digits, rest) =>
        (some (Number.withSign negative (Number.ofDigits (digitValues digits))), rest)
    else (none, text)
  | [] => (none, text)

/-- The digits before the point: a single zero, or a run that does not start with one. -/
def readWhole (text : List Char) : Option (List Char × List Char) :=
  match text with
  | '0' :: rest => some (['0'], rest)
  | _ =>
    match takeDigits text with
    | ([], _) => none
    | (digits, rest) => some (digits, rest)

/-- A number without its sign. -/
def readMagnitude (negative : Bool) (text : List Char) : Option (Json × List Char) := do
  let (whole, rest) ← readWhole text
  let (fraction, rest) := readFraction rest
  let (power, rest) := readPower rest
  if fraction.isNone && power.isNone then
    some (.int (Number.withSign negative (Number.ofDigits (digitValues whole))), rest)
  else
    some (.float (Number.ofParts negative (digitValues whole) (digitValues (fraction.getD []))
      (power.getD 0)), rest)

/-- What follows a fixed word at the start of a text. -/
def expect (word : String) (text : List Char) : Option (List Char) :=
  if word.toList.isPrefixOf text then some (text.drop word.length) else none

def readWord (text : List Char) : Option (Json × List Char) :=
  ((expect "null" text).map (.null, ·)).or <|
  ((expect "true" text).map (.bool true, ·)).or <|
  ((expect "false" text).map (.bool false, ·)).or <|
  ((expect "NaN" text).map (.float .nan, ·)).or <|
  ((expect "Infinity" text).map (.float (.infinity false), ·)).or <|
  (expect "-Infinity" text).map (.float (.infinity true), ·)

def readNumber (text : List Char) : Option (Json × List Char) :=
  match text with
  | '-' :: rest => readMagnitude true rest
  | _ => readMagnitude false text

mutual

/-- A value at the start of a text. -/
def readValue (fuel : Nat) (text : List Char) : Option (Json × List Char) :=
  match fuel with
  | 0 => none
  | fuel + 1 =>
    match text with
    | '"' :: rest =>
      (readString rest.length rest).map fun (text, rest) => (.string (String.ofList text), rest)
    | '[' :: rest =>
      match skipSpace rest with
      | ']' :: rest => some (.array [], rest)
      | rest => (readItems fuel rest).map fun (items, rest) => (.array items, rest)
    | '{' :: rest =>
      match skipSpace rest with
      | '}' :: rest => some (.object [], rest)
      | rest => (readFields fuel [] rest).map fun (fields, rest) => (.object fields, rest)
    | _ => (readWord text).or (readNumber text)

/-- The items of an array, at least one, up to its closing bracket. -/
def readItems (fuel : Nat) (text : List Char) : Option (List Json × List Char) :=
  match fuel with
  | 0 => none
  | fuel + 1 => do
    let (item, rest) ← readValue fuel text
    match skipSpace rest with
    | ']' :: rest => some ([item], rest)
    | ',' :: rest =>
      let (items, rest) ← readItems fuel (skipSpace rest)
      some (item :: items, rest)
    | _ => none

/-- The fields of an object, at least one, up to its closing brace, set one after the other. -/
def readFields (fuel : Nat) (known : Fields) (text : List Char) : Option (Fields × List Char) :=
  match fuel with
  | 0 => none
  | fuel + 1 =>
    match text with
    | '"' :: rest => do
      let (name, rest) ← readString rest.length rest
      match skipSpace rest with
      | ':' :: rest =>
        let (value, rest) ← readValue fuel (skipSpace rest)
        let fields := upsert (String.ofList name) value known
        match skipSpace rest with
        | '}' :: rest => some (fields, rest)
        | ',' :: rest => readFields fuel fields (skipSpace rest)
        | _ => none
      | _ => none
    | _ => none

end

/-- Reads a text that holds one value and white space around it. -/
def parse? (text : List Char) : Option Json :=
  match readValue (text.length + 1) (skipSpace text) with
  | some (value, rest) => if (skipSpace rest).isEmpty then some value else none
  | none => none

end MockIssuer.Json
