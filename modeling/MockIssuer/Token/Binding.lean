import MockIssuer.Token.Builder

/-!
# Generator bindings

What a builder needs so that a given server can verify its tokens: a client id, a key, the address
of the published key set and the id of the key in it.
-/
namespace MockIssuer

structure Binding where
  clientId : Json
  key : SigningKey
  jwksUrl : Json
  keyId : Json

namespace Binding

/-- Puts the binding into a builder. -/
def apply (binding : Binding) (builder : TokenBuilder) : TokenBuilder :=
  (((builder.withClaim ClaimName.clientId binding.clientId).withKey binding.key).withHeader
    HeaderName.jwksUrl binding.jwksUrl).withHeader HeaderName.keyId binding.keyId

/-- A new builder with the binding in it. -/
def createBuilder (binding : Binding) (environment : Environment) (service : Service) :
    Except Failure TokenBuilder :=
  (TokenBuilder.new environment service).map binding.apply

end Binding

end MockIssuer
