/-!
# Modular powers and primality

Powers modulo a number by repeated squaring, and a test of primality that every prime passes: for
each of a few bases, the power that a prime forces to one must be reached through a square root of
one that a prime allows.
-/
namespace MockIssuer.Rsa

/-- The remainder of `b ^ e` modulo `m`. -/
def powMod (b e m : Nat) : Nat :=
  if h : e = 0 then 1 % m
  else
    let half := powMod (b * b % m) (e / 2) m
    if e % 2 = 0 then half else half * b % m
termination_by e
decreasing_by omega

/-- The number of times that two divides a number, found within `fuel` steps. -/
def twos : Nat → Nat → Nat
  | 0, _ => 0
  | fuel + 1, n => if n % 2 = 0 then twos fuel (n / 2) + 1 else 0

/-- Whether `x` or one of its first `count` squares is `n - 1` modulo `n`. -/
def reachesMinusOne (n : Nat) : Nat → Nat → Bool
  | 0, x => x == n - 1
  | count + 1, x => x == n - 1 || reachesMinusOne n count (x * x % n)

/-- Whether `base` does not show that the odd number `n` is composite. -/
def passes (n base : Nat) : Bool :=
  let s := twos n.log2 (n - 1)
  let x := powMod base ((n - 1) / Nat.pow 2 s) n
  base % n == 0 || x == 1 || reachesMinusOne n (s - 1) x

/-- The bases that are tried. -/
def bases : List Nat :=
  [2, 3, 5, 7, 11, 13, 17, 19, 23, 29, 31, 37, 41, 43, 47, 53, 59, 61, 67, 71]

/-- Whether no base shows that `n` is composite. -/
def isProbablePrime (n : Nat) : Bool :=
  n == 2 || (2 < n && n % 2 == 1 && bases.all (passes n))

/-- The number of bits of a number. -/
def bitLength (n : Nat) : Nat :=
  if n = 0 then 0 else n.log2 + 1

end MockIssuer.Rsa
