import MockIssuer.Number.Binary64
import MockIssuer.Number.Integer

/-!
# Shortest decimal text

A finite number is written with the fewest decimal digits that read back as it, and among those
with the digits nearest to it. For one, two, … seventeen digits the two neighbours of the value on
that decimal grid are tried; the exact expansion stands behind them, so the text reads back in any
case. The text is positional when the decimal point lies from three places before the first digit to
sixteen places after it, and scientific otherwise.
-/
namespace MockIssuer.Number

/-- A decimal number `coefficient * 10 ^ exponent`. -/
structure Decimal where
  coefficient : Nat
  exponent : Int
  deriving DecidableEq

/-- The greatest `k` with `10 ^ k ≤ num / den`, for positive `num` and `den`. -/
def floorLog10 (num den : Nat) : Int :=
  let k : Int := ((natText num).length : Int) - (natText den).length
  if den * Nat.pow 10 k.toNat ≤ num * Nat.pow 10 (-k).toNat then k else k - 1

namespace Binary64

/-- Whether a decimal magnitude reads back as the magnitude of `x`. -/
def isReadFrom (x : Binary64) (d : Decimal) : Bool :=
  ofDecimal x.negative d.coefficient d.exponent == x

/-- The decimal nearest to `x` on the grid `10 ^ exponent` that reads back as `x`. -/
def onGrid? (x : Binary64) (exponent : Int) : Option Decimal :=
  let num := x.ratio.1 * Nat.pow 10 (-exponent).toNat
  let den := x.ratio.2 * Nat.pow 10 exponent.toNat
  let below : Decimal := ⟨num / den, exponent⟩
  let above : Decimal := ⟨num / den + 1, exponent⟩
  match x.isReadFrom below, x.isReadFrom above with
  | true, true => some ⟨roundHalfEven num den, exponent⟩
  | true, false => some below
  | false, true => some above
  | false, false => none

/-- The exact decimal expansion of a finite number. -/
def exact (x : Binary64) : Decimal :=
  if 0 ≤ x.scale then ⟨x.mantissa * Nat.pow 2 x.scale.toNat, 0⟩
  else ⟨x.mantissa * Nat.pow 5 (-x.scale).toNat, x.scale⟩

/-- The decimal with the fewest digits that reads back as `x`. -/
def shortest (x : Binary64) : Decimal :=
  let top := floorLog10 x.ratio.1 x.ratio.2
  ((List.range 17).findSome? fun (n : Nat) => x.onGrid? (top - n)).getD x.exact

def pointedText (digits : List Char) (point : Int) : List Char :=
  if point ≤ 0 then '0' :: '.' :: List.replicate (-point).toNat '0' ++ digits
  else if point < digits.length then digits.take point.toNat ++ '.' :: digits.drop point.toNat
  else digits ++ List.replicate (point.toNat - digits.length) '0' ++ ['.', '0']

def scientificText (digits : List Char) (point : Int) : List Char :=
  let exponent := point - 1
  let size := natText exponent.natAbs
  let fraction := if digits.length ≤ 1 then [] else '.' :: digits.drop 1
  digits.take 1 ++ fraction ++ 'e' :: (if exponent < 0 then '-' else '+') ::
    (if size.length < 2 then '0' :: size else size)

/-- The text of a magnitude: its digits without the zeros at the end, and a point. -/
def magnitudeText (d : Decimal) : List Char :=
  let written := natText d.coefficient
  let point : Int := d.exponent + written.length
  let digits := Text.dropRightWhile (· == '0') written
  if -4 < point ∧ point ≤ 16 then pointedText digits point else scientificText digits point

/-- The text of a number, given the words for infinity and for what is no number. -/
def text (infinityWord nanWord : String) (x : Binary64) : List Char :=
  if x.isNaN then nanWord.toList
  else
    let magnitude :=
      if !x.isFinite then infinityWord.toList
      else if x.mantissa = 0 then ['0', '.', '0']
      else magnitudeText x.shortest
    if x.negative then '-' :: magnitude else magnitude

/-- The text of a number in messages. -/
def render (x : Binary64) : String :=
  String.ofList (x.text "inf" "nan")

end Binary64

end MockIssuer.Number
