import MockIssuer.Rsa.Key

/-!
# Making keys

A key pair of a given size from the first primes of half that size above a fixed start. Both primes
lie in the upper quarter of their range, so their product has exactly the size asked for. The
private exponent is found through an inverse modulo the public one, which is prime.
-/
namespace MockIssuer.Rsa

/-- The exponent of public keys. -/
def publicExponent : Nat := 65537

def smallPrimes : List Nat :=
  (List.range 1000).filter fun n => 2 < n && (List.range n).all fun d => d < 2 || n % d != 0

/-- Whether a number can be a prime of a key. -/
def isKeyPrime (n : Nat) : Bool :=
  (smallPrimes.all fun p => n % p != 0) && (n - 1) % publicExponent != 0 && isProbablePrime n

/-- The first prime for keys at or after the odd number `n`, within `fuel` steps. -/
def nextPrime? : Nat → Nat → Option Nat
  | 0, _ => none
  | fuel + 1, n => if isKeyPrime n then some n else nextPrime? fuel (n + 2)

/-- The key of two primes. -/
def ofPrimes (p q : Nat) : PrivateKey :=
  let e := publicExponent
  let order := Nat.lcm (p - 1) (q - 1)
  let d := (1 + (e - powMod (order % e) (e - 2) e) * order) / e
  ⟨p * q, e, d, p, q, d % (p - 1), d % (q - 1), powMod q (p - 2) p⟩

/-- A key whose modulus has `size` bits. -/
def generate? (size : Nat) : Option PrivateKey := do
  let high := (size + 1) / 2
  let low := size / 2
  let fuel := 64 * size
  let p ← nextPrime? fuel (3 * Nat.pow 2 (high - 2) + 1)
  let q ← nextPrime? fuel (if high = low then p + 2 else 3 * Nat.pow 2 (low - 2) + 1)
  some (ofPrimes p q)

end MockIssuer.Rsa
