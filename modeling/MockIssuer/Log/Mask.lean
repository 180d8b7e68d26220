/-!
# Masked tokens

A token appears in a log only by its first and last characters. Both ends have `visible`
characters; a token that they would cover is hidden altogether. A negative count leaves out as many
characters at the other end instead.
-/
namespace MockIssuer.Log

/-- The first `count` characters, or all but the last `-count`. -/
def head (count : Int) (text : List Char) : List Char :=
  if 0 ≤ count then text.take count.toNat else text.take (text.length - count.natAbs)

/-- The last `count` characters; all but the first `-count` where `count` is not positive. -/
def last (count : Int) (text : List Char) : List Char :=
  if 0 < count then text.drop (text.length - count.toNat) else text.drop count.natAbs

/-- The ends of a token with dots between them. -/
def mask (visible : Int) (token : String) : String :=
  let text := token.toList
  if (text.length : Int) ≤ visible * 2 then "***"
  else String.ofList (head visible text ++ '.' :: '.' :: '.' :: last visible text)

/-- How many characters of each end are shown in log events. -/
def visibleCount : Int := 8

end MockIssuer.Log
