/-!
# Double-precision numbers

A number of 64 bits as its three fields: a sign, a biased exponent and a fraction. Every
combination of fields is a number. A finite one stands for `mantissa * 2 ^ scale`; `ofRatio` rounds
a quotient of natural numbers to the nearest such value, a half to the even neighbour, and what is
too large to infinity.
-/
namespace MockIssuer.Number

/-- Fractions have 52 bits. -/
abbrev fractionSize : Nat := 0x10000000000000

structure Binary64 where
  negative : Bool
  exponent : Fin 2048
  fraction : Fin fractionSize
  deriving DecidableEq

/-- The nearest integer to a quotient; a half goes to the even neighbour. -/
def roundHalfEven (num den : Nat) : Nat :=
  let q := num / den
  let r := num % den
  if den < 2 * r ∨ (2 * r = den ∧ q % 2 = 1) then q + 1 else q

/-- The greatest `k` with `2 ^ k ≤ num / den`, for positive `num` and `den`. -/
def floorLog2 (num den : Nat) : Int :=
  let k : Int := (num.log2 : Int) - den.log2
  if den * Nat.pow 2 k.toNat ≤ num * Nat.pow 2 (-k).toNat then k else k - 1

namespace Binary64

def isFinite (x : Binary64) : Bool := x.exponent.val != 2047

def isNaN (x : Binary64) : Bool := !x.isFinite && x.fraction.val != 0

def infinity (negative : Bool) : Binary64 := ⟨negative, 2047, 0⟩

def nan : Binary64 := ⟨false, 2047, Fin.ofNat fractionSize (fractionSize / 2)⟩

def zero (negative : Bool) : Binary64 := ⟨negative, 0, 0⟩

def mantissa (x : Binary64) : Nat :=
  if x.exponent.val = 0 then x.fraction.val else fractionSize + x.fraction.val

def scale (x : Binary64) : Int :=
  (max 1 x.exponent.val : Nat) - 1075

/-- The magnitude of a finite number as a quotient. -/
def ratio (x : Binary64) : Nat × Nat :=
  (x.mantissa * Nat.pow 2 x.scale.toNat, Nat.pow 2 (-x.scale).toNat)

/-- The number whose exponent and fraction are the given bits; too many of them mean infinity. -/
def ofMagnitude (negative : Bool) (bits : Nat) : Binary64 :=
  if h : bits / fractionSize < 2047 then
    ⟨negative, ⟨bits / fractionSize, by omega⟩, ⟨bits % fractionSize, Nat.mod_lt _ (by decide)⟩⟩
  else infinity negative

/-- The number nearest to `num / den`, with the given sign. -/
def ofRatio (negative : Bool) (num den : Nat) : Binary64 :=
  if num = 0 then zero negative
  else
    let q : Int := max (-1074) (floorLog2 num den - 52)
    let t := roundHalfEven (num * Nat.pow 2 (-q).toNat) (den * Nat.pow 2 q.toNat)
    ofMagnitude negative ((q + 1074).toNat * fractionSize + t)

def ofInt (n : Int) : Binary64 :=
  ofRatio (n < 0) n.natAbs 1

/-- The value of a finite number in units of the least positive one. -/
def units (x : Binary64) : Int :=
  let n : Int := (x.mantissa * Nat.pow 2 (x.scale + 1074).toNat : Nat)
  if x.negative then -n else n

/-- The rounded sum; the sum of opposite numbers is a positive zero. -/
def add (x y : Binary64) : Binary64 :=
  if x.isNaN || y.isNaN then nan
  else if !x.isFinite then
    if !y.isFinite && x.negative != y.negative then nan else x
  else if !y.isFinite then y
  else
    let n := x.units + y.units
    if n = 0 then zero (x.negative && y.negative)
    else ofRatio (n < 0) n.natAbs (Nat.pow 2 1074)

/-- A finite number without a fractional part. -/
def isIntegral (x : Binary64) : Bool :=
  x.isFinite && x.ratio.1 % x.ratio.2 == 0

/-- The integer part of a finite number. -/
def truncate (x : Binary64) : Int :=
  let n : Int := (x.ratio.1 / x.ratio.2 : Nat)
  if x.negative then -n else n

/-- The number nearest to `coefficient * 10 ^ exponent`, with the given sign. Exponents far outside
the range of numbers are answered without computing the power. -/
def ofDecimal (negative : Bool) (coefficient : Nat) (exponent : Int) : Binary64 :=
  if coefficient = 0 then zero negative
  else
    let top : Int := exponent + (Nat.toDigits 10 coefficient).length
    if 310 < top then infinity negative
    else if top < -330 then zero negative
    else ofRatio negative (coefficient * Nat.pow 10 exponent.toNat)
      (Nat.pow 10 (-exponent).toNat)

end Binary64

end MockIssuer.Number
