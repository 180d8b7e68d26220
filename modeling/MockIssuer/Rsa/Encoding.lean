import MockIssuer.Encoding.Der
import MockIssuer.Encoding.Pem
import MockIssuer.Rsa.Key

/-!
# Encoded keys

Private keys as PKCS #8 or in the traditional RSA form, public keys as SubjectPublicKeyInfo or in
the RSA form, each with a reader beside its writer. Keys of other algorithms are recognised but not
read further.
-/
namespace MockIssuer.Rsa

/-- The object identifier of RSA encryption. -/
def rsaEncryption : Bytes := [0x2a, 0x86, 0x48, 0x86, 0xf7, 0x0d, 0x01, 0x01, 0x01]

def ellipticCurve : Bytes := [0x2a, 0x86, 0x48, 0xce, 0x3d, 0x02, 0x01]

def digitalSignature : Bytes := [0x2a, 0x86, 0x48, 0xce, 0x38, 0x04, 0x01]

/-- The algorithms on Montgomery and Edwards curves, with the size of their keys. -/
def curveKeys : List (Bytes × Nat) :=
  [([0x2b, 0x65, 0x6e], 32), ([0x2b, 0x65, 0x6f], 56), ([0x2b, 0x65, 0x70], 32),
    ([0x2b, 0x65, 0x71], 57)]

/-- The algorithm of an RSA key, with empty parameters. -/
def rsaAlgorithm : Bytes :=
  Der.sequence [Der.objectId rsaEncryption, Der.null]

namespace PublicKey

/-- The two numbers of a public key. -/
def toDer (key : PublicKey) : Bytes :=
  Der.sequence [Der.natural key.modulus, Der.natural key.exponent]

/-- A public key with the name of its algorithm. -/
def toInfo (key : PublicKey) : Bytes :=
  Der.sequence [rsaAlgorithm, Der.bitString key.toDer]

def toPem (key : PublicKey) : Bytes :=
  Pem.write "PUBLIC KEY" key.toInfo

def ofDer? (bytes : Bytes) : Option PublicKey := do
  let contents ← Der.readWhole? Der.sequenceTag bytes
  match ← Der.readNaturals? 2 contents with
  | [modulus, exponent] => some ⟨modulus, exponent⟩
  | _ => none

end PublicKey

namespace PrivateKey

def numbers (key : PrivateKey) : List Nat :=
  [key.modulus, key.publicExponent, key.privateExponent, key.prime1, key.prime2, key.exponent1,
    key.exponent2, key.coefficient]

def ofNumbers? : List Nat → Option PrivateKey
  | [n, e, d, p, q, dp, dq, qi] => some ⟨n, e, d, p, q, dp, dq, qi⟩
  | _ => none

/-- The eight numbers of a private key behind a version of zero. -/
def toDer (key : PrivateKey) : Bytes :=
  Der.sequence (Der.natural 0 :: key.numbers.map Der.natural)

/-- A private key with the name of its algorithm. -/
def toInfo (key : PrivateKey) : Bytes :=
  Der.sequence [Der.natural 0, rsaAlgorithm, Der.octetString key.toDer]

def toPem (key : PrivateKey) : Bytes :=
  Pem.write "PRIVATE KEY" key.toInfo

/-- Reads the traditional form; the numbers must belong together. -/
def ofDer? (bytes : Bytes) : Option PrivateKey := do
  let contents ← Der.readWhole? Der.sequenceTag bytes
  match ← Der.readNaturals? 9 contents with
  | 0 :: numbers =>
    let key ← ofNumbers? numbers
    if key.isConsistent then some key else none
  | _ => none

end PrivateKey

/-- What a block holds: an RSA key, or a key of another algorithm. -/
inductive Loaded (Key : Type) where
  | rsa (key : Key)
  | other

/-- The identifier of an algorithm and its parameters, at the front. -/
def readAlgorithm? (bytes : Bytes) : Option (Bytes × Bytes × Bytes) := do
  let (contents, rest) ← Der.readTagged? Der.sequenceTag bytes
  let (id, parameters) ← Der.readTagged? Der.objectIdTag contents
  some (id, parameters, rest)

/-- RSA keys have no parameters, written as an empty element or left out. -/
def areEmptyParameters (parameters : Bytes) : Bool :=
  parameters.isEmpty || parameters == Der.null

/-- A number in the contents of an elliptic curve key: a version and the private number. -/
def isCurveKey (bytes : Bytes) : Bool :=
  (do
    let contents ← Der.readWhole? Der.sequenceTag bytes
    let (version, rest) ← Der.readNatural? contents
    let (number, _) ← Der.readTagged? Der.octetStringTag rest
    some (version == 1 && !number.isEmpty)) == some true

/-- The numbers of a traditional key of the digital signature algorithm. -/
def isSignatureKey (bytes : Bytes) : Bool :=
  ((Der.readWhole? Der.sequenceTag bytes).bind (Der.readNaturals? 6)).isSome

/-- Reads a private key with the name of its algorithm. -/
def readPrivateInfo? (bytes : Bytes) : Option (Loaded PrivateKey) := do
  let contents ← Der.readWhole? Der.sequenceTag bytes
  let (version, rest) ← Der.readNatural? contents
  let (id, parameters, rest) ← readAlgorithm? rest
  let (inner, rest) ← Der.readTagged? Der.octetStringTag rest
  if version != 0 || !(rest.isEmpty || rest.head? == some 0xa0) then none
  else if id == rsaEncryption then
    if areEmptyParameters parameters then (PrivateKey.ofDer? inner).map .rsa else none
  else if id == ellipticCurve then if isCurveKey inner then some .other else none
  else if id == digitalSignature then
    if (Der.readNatural? inner).any (·.2.isEmpty) then some .other else none
  else match curveKeys.lookup id with
    | some size =>
      if (Der.readWhole? Der.octetStringTag inner).any (·.length == size) then some .other else none
    | none => none

/-- Reads a public key with the name of its algorithm. -/
def readPublicInfo? (bytes : Bytes) : Option (Loaded PublicKey) := do
  let contents ← Der.readWhole? Der.sequenceTag bytes
  let (id, parameters, rest) ← readAlgorithm? contents
  match ← Der.readWhole? Der.bitStringTag rest with
  | 0 :: inner =>
    if id == rsaEncryption then
      if areEmptyParameters parameters then (PublicKey.ofDer? inner).map .rsa else none
    else if id == ellipticCurve then if inner.isEmpty then none else some .other
    else if id == digitalSignature then
      if (Der.readNatural? inner).any (·.2.isEmpty) then some .other else none
    else match curveKeys.lookup id with
      | some size => if inner.length == size then some .other else none
      | none => none
  | _ => none

def privateLabels : List String :=
  ["PRIVATE KEY", "ENCRYPTED PRIVATE KEY", "RSA PRIVATE KEY", "EC PRIVATE KEY", "DSA PRIVATE KEY"]

def publicLabels : List String :=
  ["PUBLIC KEY", "RSA PUBLIC KEY"]

def isEncrypted (block : Pem.Block) : Bool :=
  block.label == "ENCRYPTED PRIVATE KEY".toList ||
    block.headers.any (·.1 == "Proc-Type".toList)

/-- Reads the first block of a text that is labelled as a private key. -/
def readPrivatePem? (bytes : Bytes) : Option (Loaded PrivateKey) := do
  let block ← Pem.find? privateLabels bytes
  if isEncrypted block then none
  else if block.label == "PRIVATE KEY".toList then readPrivateInfo? block.contents
  else if block.label == "RSA PRIVATE KEY".toList then
    (PrivateKey.ofDer? block.contents).map .rsa
  else if block.label == "EC PRIVATE KEY".toList then
    if isCurveKey block.contents then some .other else none
  else if isSignatureKey block.contents then some .other else none

/-- Reads the first block of a text that is labelled as a public key. -/
def readPublicPem? (bytes : Bytes) : Option (Loaded PublicKey) := do
  let block ← Pem.find? publicLabels bytes
  if block.label == "PUBLIC KEY".toList then readPublicInfo? block.contents
  else (PublicKey.ofDer? block.contents).map .rsa

end MockIssuer.Rsa
