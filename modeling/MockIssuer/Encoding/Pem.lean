import MockIssuer.Encoding.Base64
import MockIssuer.Text.Blank
import MockIssuer.Text.Utf8

/-!
# PEM armour

Labelled blocks of Base64 between a line that opens and a line that closes them. Text around the
blocks is skipped, blanks inside the data do not count, and a block that is never closed is
ignored. Every closed block of a text must be well formed, whichever of them is wanted. A block may
begin with headers, which an empty line separates from the data.
-/
namespace MockIssuer.Pem

structure Block where
  label : List Char
  headers : List (List Char × List Char)
  contents : Bytes

def opening : Bytes := Bytes.ofAscii "-----BEGIN "
def closing : Bytes := Bytes.ofAscii "-----END "
def dashes : Bytes := Bytes.ofAscii "-----"

/-- What stands before and after the first occurrence of a marker. -/
def splitAt? (marker : Bytes) : Bytes → Option (Bytes × Bytes)
  | [] => if marker.isEmpty then some ([], []) else none
  | b :: rest =>
    if marker.isPrefixOf (b :: rest) then some ([], (b :: rest).drop marker.length)
    else (splitAt? marker rest).map fun (before, after) => (b :: before, after)

def isSpace (b : UInt8) : Bool :=
  b == 0x20 || b == 0x09 || b == 0x0a || b == 0x0d

/-- The parts of the first closed block: its two labels, what is between them, and the rest. -/
structure Capture where
  label : Bytes
  closingLabel : Bytes
  body : Bytes
  rest : Bytes

def capture? (bytes : Bytes) : Option Capture := do
  let (_, rest) ← splitAt? opening bytes
  let (label, rest) ← splitAt? dashes rest
  let (body, rest) ← splitAt? closing (rest.dropWhile isSpace)
  let (closingLabel, rest) ← splitAt? dashes rest
  some ⟨label, closingLabel, body, rest.dropWhile isSpace⟩

/-- The headers and the data of a block, separated by the first empty line if there is one. -/
def splitHeaders (body : Bytes) : Bytes × Bytes :=
  match splitAt? [0x0a, 0x0a] body with
  | some parts => parts
  | none => (splitAt? [0x0d, 0x0a, 0x0d, 0x0a] body).getD ([], body)

/-- The lines of a text, each without the carriage return at its end. -/
def lines (text : List Char) : List (List Char) :=
  (text.splitOn '\n').map fun line => if line.getLast? = some '\r' then line.dropLast else line

/-- A header line: a name, a colon and a value. -/
def readHeader? (line : List Char) : Option (List Char × List Char) :=
  match line.span (· != ':') with
  | (name, ':' :: value) => some (Text.trim Text.isBlank name, Text.trim Text.isBlank value)
  | _ => none

def readHeaders? (bytes : Bytes) : Option (List (List Char × List Char)) :=
  if bytes.isEmpty then some [] else (lines (Text.decodeUtf8 bytes)).mapM readHeader?

/-- The bytes of a block's data. -/
def readData? (bytes : Bytes) : Option Bytes :=
  Base64.decode? .standard ((Text.decodeUtf8 bytes).filter (!Text.isWhite ·))

def Capture.block? (capture : Capture) : Option Block :=
  if capture.label.isEmpty || capture.label != capture.closingLabel then none
  else do
    let (headers, data) := splitHeaders capture.body
    let headers ← readHeaders? headers
    let contents ← readData? data
    some ⟨Text.decodeUtf8 capture.label, headers, contents⟩

/-- The captures of a text, in order; each leaves fewer bytes, so `fuel` bounds their number. -/
def captures : Nat → Bytes → List Capture
  | 0, _ => []
  | fuel + 1, bytes =>
    match capture? bytes with
    | some capture => capture :: captures fuel capture.rest
    | none => []

/-- All closed blocks of a text, unless one of them is malformed. -/
def blocks? (bytes : Bytes) : Option (List Block) :=
  (captures bytes.length bytes).mapM Capture.block?

/-- The first block with one of the labels. -/
def find? (labels : List String) (bytes : Bytes) : Option Block := do
  let blocks ← blocks? bytes
  blocks.find? fun block => labels.any (·.toList == block.label)

/-- The characters in lines of sixty-four, each closed by a line feed. -/
def wrap : Nat → List Char → List Char
  | 0, _ => []
  | _, [] => []
  | fuel + 1, text => text.take 64 ++ '\n' :: wrap fuel (text.drop 64)

/-- A block with the given label. -/
def write (label : String) (contents : Bytes) : Bytes :=
  let text := Base64.encode .standard contents
  opening ++ Bytes.ofAscii label ++ dashes ++ [0x0a] ++
    (wrap text.length text).map (fun c => c.toNat.toUInt8) ++
    closing ++ Bytes.ofAscii label ++ dashes ++ [0x0a]

end MockIssuer.Pem
