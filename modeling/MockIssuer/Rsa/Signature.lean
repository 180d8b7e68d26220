import MockIssuer.Digest.Sha2
import MockIssuer.Rsa.Key

/-!
# Signatures

A message is signed by raising its encoding to the private exponent. There are two encodings. The
plain one fills the size of the modulus: a fixed start, at least eight bytes of ones, a separator,
the name of the hash and the digest. Verifying raises the signature to the public exponent and
compares encodings. The probabilistic one hashes the message with a random salt and hides the salt
under a mask that the hash gives.
-/
namespace MockIssuer.Rsa

/-- The encoded name of a hash, in front of its digest. -/
def digestHeader : Hash → Bytes
  | .sha256 => [0x30, 0x31, 0x30, 0x0d, 0x06, 0x09, 0x60, 0x86, 0x48, 0x01, 0x65, 0x03, 0x04, 0x02,
      0x01, 0x05, 0x00, 0x04, 0x20]
  | .sha384 => [0x30, 0x41, 0x30, 0x0d, 0x06, 0x09, 0x60, 0x86, 0x48, 0x01, 0x65, 0x03, 0x04, 0x02,
      0x02, 0x05, 0x00, 0x04, 0x30]
  | .sha512 => [0x30, 0x51, 0x30, 0x0d, 0x06, 0x09, 0x60, 0x86, 0x48, 0x01, 0x65, 0x03, 0x04, 0x02,
      0x03, 0x05, 0x00, 0x04, 0x40]

/-- The encoding of a message in `size` bytes, where they suffice. -/
def encodeMessage? (hash : Hash) (size : Nat) (message : Bytes) : Option Bytes :=
  let digest := digestHeader hash ++ hash.digest message
  if digest.length + 11 ≤ size then
    some (0x00 :: 0x01 :: List.replicate (size - digest.length - 3) 0xff ++ 0x00 :: digest)
  else none

/-- The signature of an encoded message. -/
def PrivateKey.raise (key : PrivateKey) (encoded : Bytes) : Bytes :=
  Bytes.ofNat key.publicKey.size (powMod (Bytes.toNat encoded) key.privateExponent key.modulus)

/-- The signature of a message, unless the key is too small for the hash. -/
def PrivateKey.sign? (key : PrivateKey) (hash : Hash) (message : Bytes) : Option Bytes :=
  (encodeMessage? hash key.publicKey.size message).map key.raise

/-- Whether a signature belongs to a message. -/
def PublicKey.verify (key : PublicKey) (hash : Hash) (message signature : Bytes) : Bool :=
  signature.length == key.size && Bytes.toNat signature < key.modulus &&
    encodeMessage? hash key.size message ==
      some (Bytes.ofNat key.size (powMod (Bytes.toNat signature) key.exponent key.modulus))

/-- The mask of some length that a hash makes of a seed. -/
def maskOf (hash : Hash) (seed : Bytes) (length : Nat) : Bytes :=
  ((List.range (length / hash.size + 1)).flatMap fun count =>
    hash.digest (seed ++ Bytes.ofNat 4 count)).take length

/-- Bytes without the first `count` bits, of which there are fewer than eight. -/
def clearBits (count : Nat) : Bytes → Bytes
  | [] => []
  | first :: rest => (first &&& (0xff >>> count.toUInt8)) :: rest

/-- The probabilistic encoding of a message in a number of bits, where they suffice. -/
def encodeSalted? (hash : Hash) (bits : Nat) (salt message : Bytes) : Option Bytes :=
  let size := (bits + 7) / 8
  if hash.size + salt.length + 2 ≤ size then
    let digest := hash.digest (List.replicate 8 0 ++ hash.digest message ++ salt)
    let block := List.replicate (size - salt.length - hash.size - 2) 0 ++ 0x01 :: salt
    let masked := List.zipWith (· ^^^ ·) block (maskOf hash digest block.length)
    some (clearBits (8 * size - bits) masked ++ digest ++ [0xbc])
  else none

/-- The ways to sign with a key. -/
inductive Scheme where
  | plain (hash : Hash)
  /-- With a random salt that is as long as a digest. -/
  | salted (hash : Hash)
  deriving DecidableEq

/-- The signature of a message under a scheme that draws random bytes, unless the key is too small
for the hash. -/
def PrivateKey.signAs? (key : PrivateKey) (scheme : Scheme) (random : Nat → UInt8)
    (message : Bytes) : Option Bytes :=
  match scheme with
  | .plain hash => key.sign? hash message
  | .salted hash =>
    (encodeSalted? hash (key.publicKey.bits - 1) ((List.range hash.size).map random) message).map
      key.raise

end MockIssuer.Rsa
