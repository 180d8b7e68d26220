import MockIssuer.Encoding.Base64
import MockIssuer.Failure.Basic
import MockIssuer.Json.Parser
import MockIssuer.Json.Printer
import MockIssuer.Rsa.Encoding
import MockIssuer.Rsa.Signature
import MockIssuer.Token.Basic

/-!
# Signed tokens

A token is three segments of unpadded Base64 joined by points: the header, the claims and a
signature over the first two. The header names the algorithm, and a header parameter of that name
chooses it. Keys are handed to a library, which reads keys that are texts in ways that are not
followed here (`Signer`). A header can also ask for claims that are signed as they are; then the
second segment of the token is left empty. After signing, the header is read back from the text and
the extensions that it calls critical are checked.
-/
namespace MockIssuer

/-- A key to sign with. -/
inductive SigningKey where
  | absent
  | rsa (key : Rsa.PrivateKey)
  /-- A text, which only the library that signs can read. -/
  | ofText (text : String)
  /-- Neither a key nor a text. -/
  | unusable
  deriving DecidableEq

namespace Token

/-- The algorithm of tokens whose header names no other. -/
def defaultAlgorithm : String := "RS256"

/-- What an algorithm does with an RSA key. -/
inductive Algorithm where
  | signs (scheme : Rsa.Scheme)
  /-- It has no use for such a key. -/
  | refuses (fault : SigningFault)

/-- The algorithms that tokens can be signed with. -/
def algorithms : List (String × Algorithm) :=
  [("RS256", .signs (.plain .sha256)), ("RS384", .signs (.plain .sha384)),
    ("RS512", .signs (.plain .sha512)), ("PS256", .signs (.salted .sha256)),
    ("PS384", .signs (.salted .sha384)), ("PS512", .signs (.salted .sha512)),
    ("HS256", .refuses .symmetric), ("HS384", .refuses .symmetric), ("HS512", .refuses .symmetric),
    ("none", .refuses .unsecured), ("ES256", .refuses .notPem), ("ES256K", .refuses .notPem),
    ("ES384", .refuses .notPem), ("ES521", .refuses .notPem), ("ES512", .refuses .notPem),
    ("EdDSA", .refuses .wrongCurveKey)]

/-- The algorithm that a header names, with its name. -/
def algorithmOf (value : Json) : Except Failure (String × Algorithm) :=
  match value with
  | .string name =>
    match algorithms.lookup name with
    | some algorithm => .ok (name, algorithm)
    | none => .error .unknownAlgorithm
  | .array _ | .object _ => .error (.signing (.unhashable value.typeWord))
  | _ => .error .unknownAlgorithm

/-- A failure of the library that signs, by its family and its wording. The library knows nothing of
the families of this one. -/
structure LibraryFailure where
  family : String
  message : String
  isWithin_eq_false : Family.isWithin family "HarnessError" = false

/-- Whether the family of a failure is one that is told as a failure of the token. -/
def isReported (family : String) : Bool :=
  ["PyJWTError", "ValueError", "TypeError"].any (Family.isWithin family ·)

def LibraryFailure.toFailure (failure : LibraryFailure) : Failure :=
  if isReported failure.family then .signing (.library failure.message)
  else .foreign failure.family [.string failure.message]

/-- What is made of a text as a key where nothing but private RSA keys in PEM armour is read. -/
def signReadable (random : Nat → UInt8) (text name : String) (input : Bytes) :
    Except LibraryFailure Bytes :=
  let refuse (fault : SigningFault) : Except LibraryFailure Bytes :=
    .error ⟨"PyJWTError", fault.message, by decide⟩
  match algorithms.lookup name, Rsa.readPrivatePem? (Text.encodeUtf8 text.toList) with
  | some (.signs scheme), some (.rsa key) =>
    match key.signAs? scheme random input with
    | some signature => .ok signature
    | none => refuse .keyTooSmall
  | some (.refuses fault), _ => refuse fault
  | _, _ => refuse .unreadableKey

/-- The part of the library that is not followed here: the random bytes that it draws, and what it
makes of a text as a key, for the name of an algorithm and what is to be signed. -/
structure Signer where
  random : Nat → UInt8 := fun _ => 0
  signText : String → String → Bytes → Except LibraryFailure Bytes := signReadable random

/-- The value that a header gives for the algorithm, or the default where it gives none. -/
def chosenAlgorithm (headers : Json.Fields) : Json :=
  match headers.lookup HeaderName.algorithm with
  | some value => if value.isFalsy then .string defaultAlgorithm else value
  | none => .string defaultAlgorithm

/-- Whether a header asks for claims that are signed as they are. -/
def isUnencoded (headers : Json.Fields) : Bool :=
  match headers.lookup HeaderName.unencoded with
  | some (.bool false) => true
  | _ => false

/-- One set of fields put over another. -/
def override (fields changes : Json.Fields) : Json.Fields :=
  changes.foldl (fun fields (name, value) => Json.upsert name value fields) fields

/-- The header with its defaults, in any order. A type that counts as absent is left out. -/
def withDefaults (headers : Json.Fields) : Json.Fields :=
  let full := override [(HeaderName.type, .string "JWT"),
    (HeaderName.algorithm, chosenAlgorithm headers)] headers
  match full.lookup HeaderName.type with
  | some value => if value.isFalsy then Json.erase HeaderName.type full else full
  | none => full

def mentions (name : String) (items : List Json) : Bool :=
  items.any fun
    | .string text => text == name
    | _ => false

/-- The header of a token whose claims are signed as they are names that as critical. -/
def withCritical (header : Json.Fields) : Except Failure Json.Fields :=
  let header := Json.upsert HeaderName.unencoded (.bool false) header
  match header.lookup HeaderName.critical with
  | none =>
    .ok (Json.upsert HeaderName.critical (.array [.string HeaderName.unencoded]) header)
  | some (.array items) =>
    if mentions HeaderName.unencoded items then .ok header
    else .ok (Json.upsert HeaderName.critical
      (.array (items ++ [.string HeaderName.unencoded])) header)
  | some _ => .error (.signing .criticalNotList)

def isString : Json → Bool
  | .string _ => true
  | _ => false

/-- The header of a token with the given parameters. -/
def headerFor (headers : Json.Fields) : Except Failure Json.Fields :=
  if (headers.lookup HeaderName.keyId).any (!isString ·) then .error (.signing .keyIdNotText)
  else if isUnencoded headers then withCritical (withDefaults headers)
  else .ok (Json.erase HeaderName.unencoded (withDefaults headers))

/-- A segment of a token. -/
def segment (bytes : Bytes) : List Char :=
  Base64.encodeBare .url bytes

/-- The ASCII bytes of a text. -/
def asciiBytes (text : List Char) : Bytes :=
  text.map fun c => c.toNat.toUInt8

/-- The text of a header: its parameters by name. -/
def headerText (header : Json.Fields) : List Char :=
  (Json.object header).sortKeys.print .compactAscii

def claimsText (claims : Json.Fields) : List Char :=
  (Json.object claims).print .compactAscii

/-- The first two segments, over which the signature is made. -/
def signingInput (header claims : List Char) (unencoded : Bool) : List Char :=
  segment (asciiBytes header) ++ '.' ::
    (if unencoded then claims else segment (asciiBytes claims))

/-- The signature of a text with a key, under the algorithm that a header names. -/
def signWith (signer : Signer) (key : SigningKey) (value : Json) (input : List Char) :
    Except Failure Bytes :=
  match algorithmOf value with
  | .error failure => .error failure
  | .ok (name, algorithm) =>
    match key, algorithm with
    | .ofText text, _ => (signer.signText text name (asciiBytes input)).mapError (·.toFailure)
    | _, .refuses fault => .error (.signing fault)
    | .rsa key, .signs scheme =>
      match key.signAs? scheme signer.random (asciiBytes input) with
      | some signature => .ok signature
      | none => .error (.signing .keyTooSmall)
    | .absent, .signs _ | .unusable, .signs _ => .error (.signing .notPem)

/-- The text of a signed token. Claims, and then a header, with an integer of too many digits are
refused. -/
def sign (signer : Signer) (key : SigningKey) (headers claims : Json.Fields) :
    Except Failure String :=
  if (claims.lookup ClaimName.issuer).any (!isString ·) then .error (.signing .issuerNotText)
  else if !(Json.object claims).isWritable then .error (.signing .integerTooLong)
  else
    match headerFor headers with
    | .error failure => .error failure
    | .ok header =>
      if !(Json.object header).isWritable then .error (.signing .integerTooLong)
      else
        let header := headerText header
        let claims := claimsText claims
        let unencoded := isUnencoded headers
        match signWith signer key (chosenAlgorithm headers)
          (signingInput header claims unencoded) with
        | .error failure => .error failure
        | .ok signature =>
          let second := if unencoded then [] else segment (asciiBytes claims)
          .ok (String.ofList (segment (asciiBytes header) ++ '.' :: second ++
            '.' :: segment signature))

/-- The header of a token, read from its first segment. -/
def readHeader? (token : String) : Option Json.Fields := do
  let bytes ← Base64.decodeBare? .url (token.toList.takeWhile (· != '.'))
  match ← Json.parse? bytes.toChars with
  | .object fields => some fields
  | _ => none

/-- Checks one entry of the critical extensions of a header. -/
def checkExtension (header : Json.Fields) : Json → Except CriticalFault Unit
  | .string name =>
    if name ≠ HeaderName.unencoded then .error (.unsupported name)
    else if (header.lookup name).isNone then .error (.absent name)
    else .ok ()
  | _ => .error .notStrings

def checkExtensions (header : Json.Fields) : List Json → Except CriticalFault Unit
  | [] => .ok ()
  | entry :: rest =>
    match checkExtension header entry with
    | .ok () => checkExtensions header rest
    | .error fault => .error fault

/-- Checks the critical extensions of a header. -/
def checkCritical (header : Json.Fields) : Except CriticalFault Unit :=
  match header.lookup HeaderName.critical with
  | none => .ok ()
  | some (.array (entry :: rest)) => checkExtensions header (entry :: rest)
  | some _ => .error .notNonEmptyList

end Token

end MockIssuer
