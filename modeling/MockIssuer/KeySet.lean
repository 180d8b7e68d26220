import MockIssuer.KeyPair

/-!
# The published key set

The document that a service publishes for those who verify its tokens: a template in which the key
id is put in first and then the public key. Both are inserted as they are.
-/
namespace MockIssuer.KeySet

/-- The text with every occurrence of a nonempty `old` replaced, from left to right. -/
def replaceFrom (old new : List Char) : Nat → List Char → List Char
  | _, [] => []
  | skip + 1, _ :: rest => replaceFrom old new skip rest
  | 0, c :: rest =>
    if old.isPrefixOf (c :: rest) then new ++ replaceFrom old new (old.length - 1) rest
    else c :: replaceFrom old new 0 rest

def replace (old new text : List Char) : List Char :=
  replaceFrom old new 0 text

/-- Where the key id goes. -/
def keyIdMark : String := "$kid"

/-- Where the public key goes. -/
def publicKeyMark : String := "$public_key"

/-- The document with marks in place of the key id and the public key. -/
def template : String :=
  "\x7b\n" ++
  "  \"keys\": [\n" ++
  "    \x7b\n" ++
  "      \"kty\": \"RSA\",\n" ++
  "      \"use\": \"sig\",\n" ++
  "      \"kid\": \"$kid\",\n" ++
  "      \"alg\": \"RS256\",\n" ++
  "      \"value\": \"-----BEGIN PUBLIC KEY-----\\n$public_key\\n-----END PUBLIC KEY-----\"\n" ++
  "    \x7d\n" ++
  "  ]\n" ++
  "\x7d\n"

/-- The document for a key id and the text of a public key. -/
def documentOf (keyId publicKey : String) : String :=
  String.ofList (replace publicKeyMark.toList publicKey.toList
    (replace keyIdMark.toList keyId.toList template.toList))

/-- The document that publishes a key pair under a key id. -/
def document (keys : KeyPair) (keyId : String) : String :=
  documentOf keyId keys.encodedPublicKeyText

/-- The document for a key id of any type, which must be a string. -/
def documentFor (keys : KeyPair) (keyId : Json) : Except Failure String :=
  match keyId with
  | .string keyId => .ok (document keys keyId)
  | .null => .error (.wrongType (.notAKeyId "None"))
  | other => .error (.wrongType (.notAKeyId other.typeWord))

end MockIssuer.KeySet
