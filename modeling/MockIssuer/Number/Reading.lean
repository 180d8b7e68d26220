import MockIssuer.Number.Binary64
import MockIssuer.Number.Integer

/-!
# Decimal text with a point or an exponent

`readReal?` reads the text of a double-precision number: white space around it, an optional sign, digits
of any script in groups joined by single underscores, a point, and an exponent; or one of the words
`inf`, `infinity` and `nan` in any case. `ofParts` is the number that such digits stand for.
-/
namespace MockIssuer.Number

def digitsOrNone? (text : List Char) : Option (List Nat) :=
  if text.isEmpty then some [] else groupedDigits? Text.digitValue? text

/-- The number with these integer digits, fraction digits and exponent. -/
def ofParts (negative : Bool) (whole fraction : List Nat) (exponent : Int) : Binary64 :=
  .ofDecimal negative (ofDigits (whole ++ fraction)) (exponent - fraction.length)

/-- The exponent behind the digits, or zero where the text ends. -/
def readExponent? : List Char → Option Int
  | [] => some 0
  | e :: rest =>
    if e == 'e' || e == 'E' then
      let (negative, digits) := splitSign rest
      (groupedDigits? Text.digitValue? digits).map fun ds => withSign negative (ofDigits ds)
    else none

def readMagnitude? (negative : Bool) (text : List Char) : Option Binary64 :=
  let word := text.map Char.toLower
  if word == "inf".toList || word == "infinity".toList then some (.infinity negative)
  else if word == "nan".toList then some .nan
  else do
    let (whole, rest) := spanDigits text
    let (fraction, rest) := match rest with
      | '.' :: rest => spanDigits rest
      | _ => ([], rest)
    let whole ← digitsOrNone? whole
    let fraction ← digitsOrNone? fraction
    let exponent ← readExponent? rest
    if whole.isEmpty && fraction.isEmpty then none else some (ofParts negative whole fraction exponent)

/-- Reads the text of a double-precision number. -/
def readReal? (text : List Char) : Option Binary64 :=
  let (negative, body) := splitSign (Text.trim Text.isWhite text)
  readMagnitude? negative body

end MockIssuer.Number
