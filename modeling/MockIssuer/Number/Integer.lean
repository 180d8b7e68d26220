import MockIssuer.Text.Blank
import MockIssuer.Text.Digits

/-!
# Integer text

An integer is written as an optional sign and digits, with single underscores allowed between
digits. Reading accepts the digits of any script and ignores white space at both ends. Texts
of more than `digitLimit` digits are refused, however small their value and whatever follows; nor
are integers written that have more of them.
-/
namespace MockIssuer.Number

/-- The most digits of an integer text. -/
def digitLimit : Nat := 4300

/-- The digits of a text whose groups are joined by single underscores. -/
def groupedDigits? (value? : Char → Option Nat) : List Char → Option (List Nat)
  | [] => none
  | [c] => (value? c).map ([·])
  | c :: '_' :: rest => do
    let first ← value? c
    let others ← groupedDigits? value? rest
    some (first :: others)
  | c :: rest => do
    let first ← value? c
    let others ← groupedDigits? value? rest
    some (first :: others)

/-- The number with these decimal digits, most significant first. -/
def ofDigits (digits : List Nat) : Nat :=
  digits.foldl (fun n d => 10 * n + d) 0

/-- The text without its sign, and whether that was a minus sign. -/
def splitSign : List Char → Bool × List Char
  | '-' :: rest => (true, rest)
  | '+' :: rest => (false, rest)
  | text => (false, text)

def withSign (negative : Bool) (n : Nat) : Int :=
  if negative then -(n : Int) else n

inductive IntegerFault where
  | malformed
  | tooLong (digits : Nat)
  deriving DecidableEq

/-- The digits up to the first character that is neither a digit nor an underscore, and the rest. -/
def spanDigits (text : List Char) : List Char × List Char :=
  text.span fun c => (Text.digitValue? c).isSome || c == '_'

/-- Reads an integer text. -/
def readInteger (text : List Char) : Except IntegerFault Int :=
  let (negative, body) := splitSign (text.dropWhile Text.isWhite)
  let (front, rest) := spanDigits body
  match groupedDigits? Text.digitValue? front with
  | none => .error .malformed
  | some digits =>
    if digitLimit < digits.length then .error (.tooLong digits.length)
    else if rest.all Text.isWhite then .ok (withSign negative (ofDigits digits))
    else .error .malformed

def natText (n : Nat) : List Char :=
  Nat.toDigits 10 n

/-- The decimal text of an integer. -/
def intText : Int → List Char
  | .ofNat n => natText n
  | .negSucc n => '-' :: natText (n + 1)

/-- Whether an integer has few enough digits for a text. -/
def isWritable (n : Int) : Bool :=
  (natText n.natAbs).length ≤ digitLimit

end MockIssuer.Number
