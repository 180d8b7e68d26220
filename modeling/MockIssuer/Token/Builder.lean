import MockIssuer.Log.Mask
import MockIssuer.Token.Signing
import MockIssuer.World.Basic

/-!
# Token builders

A builder collects a key, claims, header parameters and a lifetime, and makes tokens from them. The
claims of a token are the defaults with the collected ones over them: a default that is overridden
keeps its place, and other claims follow in the order in which they were added. Making a token does
not change the builder.
-/
namespace MockIssuer

structure TokenBuilder where
  service : Service
  key : SigningKey
  claims : Json.Fields
  headers : Json.Fields
  /-- Seconds from the time of issue; any value may be set, but only a number can be used. -/
  ttl : Json
  /-- The absolute time of expiry; it counts unless it is null. -/
  expiresAt : Json

namespace TokenBuilder

/-- A builder without a key, whose lifetime comes from the environment. -/
def new (environment : Environment) (service : Service) : Except Failure TokenBuilder :=
  environment.readTokenTtl.map fun ttl => ⟨service, .absent, [], [], .int ttl, .null⟩

def withKey (builder : TokenBuilder) (key : SigningKey) : TokenBuilder :=
  { builder with key := key }

/-- The fields with one of them set, or removed where the value is null. -/
def setOrErase (name : String) (value : Json) (fields : Json.Fields) : Json.Fields :=
  match value with
  | .null => Json.erase name fields
  | value => Json.upsert name value fields

def withClaim (builder : TokenBuilder) (name : String) (value : Json) : TokenBuilder :=
  { builder with claims := setOrErase name value builder.claims }

def withHeader (builder : TokenBuilder) (name : String) (value : Json) : TokenBuilder :=
  { builder with headers := setOrErase name value builder.headers }

def withScopes (builder : TokenBuilder) (scopes : List Json) : TokenBuilder :=
  { builder with claims := Json.upsert ClaimName.scopes (.array scopes) builder.claims }

/-- Sets the lifetime, and forgets an absolute time of expiry. -/
def withTtl (builder : TokenBuilder) (ttl : Json) : TokenBuilder :=
  { builder with ttl := ttl, expiresAt := .null }

def withExpiresAt (builder : TokenBuilder) (time : Json) : TokenBuilder :=
  { builder with expiresAt := time }

/-- The number nearest to an integer, which must not be too large for one. -/
def realOfInt (n : Int) : Except Failure Number.Binary64 :=
  let x := Number.Binary64.ofInt n
  if x.isFinite then .ok x else .error (.outOfRange .integerTooLarge)

/-- A time of issue and a lifetime added up. -/
def addTtl (issuedAt : Int) (ttl : Json) : Except Failure Json :=
  match ttl with
  | .int n => .ok (.int (issuedAt + n))
  | .bool value => .ok (.int (issuedAt + if value then 1 else 0))
  | .float x => (realOfInt issuedAt).map fun start => .float (start.add x)
  | other => .error (.wrongType (.addition other.typeWord))

def expiration (builder : TokenBuilder) (issuedAt : Int) : Except Failure Json :=
  match builder.expiresAt with
  | .null => addTtl issuedAt builder.ttl
  | time => .ok time

def grantTypeClientCredentials : String := "client_credentials"

/-- The claims that name the client; they are known for one service only. -/
def clientClaims (builder : TokenBuilder) : Json.Fields :=
  match builder.service with
  | .ias => []
  | .xsuaa =>
    (ClaimName.grantType, .string grantTypeClientCredentials) ::
      match builder.claims.lookup ClaimName.clientId with
      | none | some .null => []
      | some clientId => [(ClaimName.authorizationParty, clientId)]

/-- The claims that a token has where the builder says nothing else. -/
def defaultClaims (builder : TokenBuilder) (issuedAt : Int) (expiration : Json)
    (tokenId : String) : Json.Fields :=
  [(ClaimName.issuedAt, .int issuedAt), (ClaimName.expiration, expiration),
    (ClaimName.tokenId, .string tokenId)] ++ builder.clientClaims

/-- The header parameters that are handed to the signature. -/
def headerParameters (builder : TokenBuilder) : Json.Fields :=
  Token.override [(HeaderName.type, .string "JWT")] builder.headers

/-- Signs claims, reads the header back and checks it. -/
def issue (builder : TokenBuilder) (claims : Json.Fields) (world : World) :
    Except Failure Token × World :=
  match Token.sign world.signer builder.key builder.headerParameters claims with
  | .error (.signing fault) =>
    (.error (.signing fault), world.emit .error "token_signing_failed"
      [("error", .string fault.message), ("exc_info", .bool true)])
  | .error failure => (.error failure, world)
  | .ok value =>
    let headers := (Token.readHeader? value).getD []
    match Token.checkCritical headers with
    | .error fault => (.error (.critical fault), world)
    | .ok () =>
      let token : Token := ⟨value, headers, claims⟩
      (.ok token, world.emit .debug "token_created"
        [("service", .string builder.service.name), ("client_id", token.clientId),
          ("token", .string (Log.mask Log.visibleCount value))])

/-- Makes a token. A missing key and a lifetime that is no number are found first. -/
def create (builder : TokenBuilder) (world : World) : Except Failure Token × World :=
  if builder.key = .absent then (.error .noPrivateKey, world)
  else
    match world.clock.whole with
    | .error failure => (.error failure, world)
    | .ok issuedAt =>
      match builder.expiration issuedAt with
      | .error failure => (.error failure, world)
      | .ok expiration =>
        let (tokenId, world) := world.takeTokenId
        builder.issue (Token.override (builder.defaultClaims issuedAt expiration tokenId)
          builder.claims) world

end TokenBuilder

end MockIssuer
