import MockIssuer.Rsa.Arithmetic

/-!
# RSA keys

The numbers of a private key as standards list them, and the public half. `isConsistent` says when
eight numbers belong together: two odd primes and their product, an odd exponent and its inverse
modulo the order of the group, and the three numbers that are derived from these.
-/
namespace MockIssuer.Rsa

structure PublicKey where
  modulus : Nat
  exponent : Nat
  deriving DecidableEq

structure PrivateKey where
  modulus : Nat
  publicExponent : Nat
  privateExponent : Nat
  prime1 : Nat
  prime2 : Nat
  exponent1 : Nat
  exponent2 : Nat
  coefficient : Nat
  deriving DecidableEq

namespace PublicKey

def bits (key : PublicKey) : Nat := bitLength key.modulus

/-- The bytes of the modulus, and so of every signature. -/
def size (key : PublicKey) : Nat := (key.bits + 7) / 8

end PublicKey

namespace PrivateKey

def publicKey (key : PrivateKey) : PublicKey :=
  ⟨key.modulus, key.publicExponent⟩

/-- The order of the multiplicative group modulo the product of the primes, up to a factor. -/
def order (key : PrivateKey) : Nat :=
  Nat.lcm (key.prime1 - 1) (key.prime2 - 1)

/-- Whether the eight numbers belong together. -/
def isConsistent (key : PrivateKey) : Bool :=
  1 < key.publicExponent && key.publicExponent % 2 == 1 &&
    isProbablePrime key.prime1 && isProbablePrime key.prime2 &&
    key.modulus == key.prime1 * key.prime2 &&
    key.privateExponent * key.publicExponent % key.order == 1 &&
    key.exponent1 == key.privateExponent % (key.prime1 - 1) &&
    key.exponent2 == key.privateExponent % (key.prime2 - 1) &&
    key.coefficient < key.prime1 && key.coefficient * key.prime2 % key.prime1 == 1

end PrivateKey

end MockIssuer.Rsa
