import MockIssuer.Config.Raw
import MockIssuer.Failure.Basic
import MockIssuer.Text.Blank

/-!
# Endpoints of an identity service

The URLs that a service publishes, each a fixed path below a base URL. The base URL loses the
slashes at its end, so every endpoint is the base, a single slash and the rest of the path.
-/
namespace MockIssuer

structure Endpoints where
  baseUrl : String
  tokenEndpoint : String
  authorizeEndpoint : String
  delegationTokenEndpoint : String
  jwksUri : String
  deriving DecidableEq

namespace Endpoints

def tokenPath : String := "/oauth/token"
def authorizePath : String := "/oauth/authorize"
def delegationTokenPath : String := "/delegation/token"
def tokenKeysPath : String := "/token_keys"

/-- The text without the slashes at its end. -/
def stripSlashes (url : String) : String :=
  String.ofList (Text.dropRightWhile (· == '/') url.toList)

/-- The fixed paths below a base that is used as it is. -/
def below (base : String) : Endpoints where
  baseUrl := base
  tokenEndpoint := base ++ tokenPath
  authorizeEndpoint := base ++ authorizePath
  delegationTokenEndpoint := base ++ delegationTokenPath
  jwksUri := base ++ tokenKeysPath

/-- The endpoints at a base URL, which must hold more than blanks. -/
def ofUrl (url : String) : Except Failure Endpoints :=
  if Text.isBlankText url.toList then .error (.wrongValue .emptyBaseUrl)
  else .ok (below (stripSlashes url))

/-- The endpoints of a service at a base URL. -/
def resolve (service : Service) (url : String) : Except Failure Endpoints :=
  match service with
  | .xsuaa => ofUrl url
  | .ias => .error (.unsupportedService service)

/-- The endpoints of some fields, or what is wrong with them, in the order of the fields. -/
def ofFields (fields : Raw.Fields) : Except (List Violation) Endpoints :=
  let baseUrl := Raw.field fields "base_url" Raw.string none
  let token := Raw.field fields "token_endpoint" Raw.string none
  let authorize := Raw.field fields "authorize_endpoint" Raw.string none
  let delegation := Raw.field fields "delegation_token_endpoint" Raw.string none
  let jwksUri := Raw.field fields "jwks_uri" Raw.string none
  match baseUrl, token, authorize, delegation, jwksUri with
  | .ok baseUrl, .ok token, .ok authorize, .ok delegation, .ok jwksUri =>
    .ok ⟨baseUrl, token, authorize, delegation, jwksUri⟩
  | _, _, _, _, _ =>
    .error ([Raw.violation? "base_url" baseUrl, Raw.violation? "token_endpoint" token,
      Raw.violation? "authorize_endpoint" authorize,
      Raw.violation? "delegation_token_endpoint" delegation,
      Raw.violation? "jwks_uri" jwksUri].filterMap id)

@[simp] theorem stripSlashes_append_slash (url : String) :
    stripSlashes (url ++ "/") = stripSlashes url := by
  simp [stripSlashes]

end Endpoints

/-- The base URL of a server on this machine. -/
def localUrl (port : Nat) : String :=
  "http://localhost:" ++ String.ofList (Number.natText port)

end MockIssuer
