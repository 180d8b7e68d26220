import MockIssuer.Failure.Basic
import MockIssuer.Rsa.Encoding
import MockIssuer.Rsa.Generation

/-!
# Key pairs

A private key and its public half. Loading takes the private half and, if given, a public half that
must belong to it, so the public half of a loaded pair is always the derived one.
-/
namespace MockIssuer

structure KeyPair where
  privateKey : Rsa.PrivateKey
  deriving DecidableEq

/-- Key material as it is handed in. -/
inductive KeyMaterial where
  | text (value : String)
  | bytes (value : Bytes)
  | unusable
  deriving DecidableEq

/-- The bytes of key material; a text must be ASCII. -/
def KeyMaterial.bytes? : KeyMaterial → Option Bytes
  | text value =>
    if value.toList.all (·.toNat < 0x80) then some (Bytes.ofAscii value) else none
  | bytes value => some value
  | unusable => none

namespace KeyPair

def publicKey (keys : KeyPair) : Rsa.PublicKey :=
  keys.privateKey.publicKey

/-- The pair of two halves that have been read. -/
def ofLoaded : Rsa.Loaded Rsa.PrivateKey → Option (Rsa.Loaded Rsa.PublicKey) →
    Except KeyFault KeyPair
  | .other, _ => .error .privateNotRsa
  | .rsa _, some .other => .error .publicNotRsa
  | .rsa key, none => .ok ⟨key⟩
  | .rsa key, some (.rsa publicKey) =>
    if publicKey = key.publicKey then .ok ⟨key⟩ else .error .mismatch

/-- Loads a pair. Both halves are read before either is looked at. -/
def ofPem (privateHalf : KeyMaterial) (publicHalf : Option KeyMaterial) : Except Failure KeyPair :=
  let loadedPrivate := privateHalf.bytes?.bind Rsa.readPrivatePem?
  let loadedPublic := publicHalf.map fun material => material.bytes?.bind Rsa.readPublicPem?
  match loadedPrivate, loadedPublic with
  | none, _ | _, some none => .error (.key .unreadable)
  | some key, none => (ofLoaded key none).mapError .key
  | some key, some (some publicKey) => (ofLoaded key (some publicKey)).mapError .key

/-- The DER encoding of the public half. -/
def encodedPublicKey (keys : KeyPair) : Bytes :=
  keys.publicKey.toInfo

/-- The encoded public half in standard Base64 without line breaks. -/
def encodedPublicKeyText (keys : KeyPair) : String :=
  String.ofList (Base64.encode .standard keys.encodedPublicKey)

def privatePem (keys : KeyPair) : Bytes :=
  keys.privateKey.toPem

def publicPem (keys : KeyPair) : Bytes :=
  keys.publicKey.toPem

/-- The least size of a key that is made. -/
def leastSize : Int := 1024

/-- The size of keys that are made where none is asked for. -/
def defaultSize : Nat := 2048

/-- Sizes of keys are counted below this number. -/
def sizeBound : Int := 4294967296

/-- Makes a key pair of a given size. -/
def generate (size : Int) : Except Failure KeyPair :=
  if size < leastSize then .error (.wrongValue .smallKey)
  else if sizeBound ≤ size then .error (.outOfRange .keySize)
  else match Rsa.generate? size.toNat with
    | some key => .ok ⟨key⟩
    | none => .error (.wrongValue .smallKey)

/-- Makes a key pair of a size of any type, which must be an integer; its least value is looked at
first. -/
def generateFor (size : Json) : Except Failure KeyPair :=
  match size with
  | .int size => generate size
  | .bool flag => generate (if flag then 1 else 0)
  | .float size =>
    if size.truncate < leastSize then .error (.wrongValue .smallKey)
    else .error (.wrongType (.notAnInteger "float"))
  | other => .error (.wrongType (.comparison other.typeWord))

/-- Whether the encodings of a pair load as the same public half. -/
def isReloadable (keys : KeyPair) : Bool :=
  match ofPem (.bytes keys.privatePem) (some (.bytes keys.publicPem)) with
  | .ok loaded => loaded.publicKey == keys.publicKey
  | .error _ => false

end KeyPair

end MockIssuer
