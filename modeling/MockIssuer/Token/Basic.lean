import MockIssuer.Config.Raw

/-!
# Tokens

A signed token with its header and claims, and the names of those that have a meaning here.
-/
namespace MockIssuer

namespace HeaderName

def algorithm : String := "alg"
def keyId : String := "kid"
def jwksUrl : String := "jku"
def type : String := "typ"
def unencoded : String := "b64"
def critical : String := "crit"

end HeaderName

namespace ClaimName

def issuedAt : String := "iat"
def expiration : String := "exp"
def tokenId : String := "jti"
def clientId : String := "cid"
def authorizationParty : String := "client_id"
def scopes : String := "scope"
def grantType : String := "grant_type"
def issuer : String := "iss"

end ClaimName

structure Token where
  value : String
  headers : Json.Fields
  claims : Json.Fields

namespace Token

def clientId (token : Token) : Json := (token.claims.lookup ClaimName.clientId).getD .null

def keyId (token : Token) : Json := (token.headers.lookup HeaderName.keyId).getD .null

def jwksUrl (token : Token) : Json := (token.headers.lookup HeaderName.jwksUrl).getD .null

/-- The header value that carries a token in a request. -/
def authorizationHeader (token : Token) : String := "Bearer " ++ token.value

/-- The token of some fields, or what is wrong with them, in the order of the fields. -/
def ofFields (fields : Raw.Fields) : Except (List Violation) Token :=
  let value := Raw.field fields "token_value" Raw.string none
  let headers := Raw.field fields "headers" Raw.toObject none
  let claims := Raw.field fields "claims" Raw.toObject none
  match value, headers, claims with
  | .ok value, .ok headers, .ok claims => .ok ⟨value, headers, claims⟩
  | _, _, _ =>
    .error ([Raw.violation? "token_value" value, Raw.violation? "headers" headers,
      Raw.violation? "claims" claims].filterMap id)

end Token

end MockIssuer
