import MockIssuer.Harness.Lifecycle

/-!
# Objects of a session

A session works on objects that keep their identity while their state changes. A harness and a mock
server also remember which objects their keys and stubs came from, so the same object is found
again where it is read back.
-/
namespace MockIssuer

abbrev ObjectId := Nat

/-- The stub objects that were registered for a method and a path. -/
abbrev StubOrigins := List ((String × String) × ObjectId)

inductive SessionObject where
  | harness (harness : Harness) (keys : Option ObjectId) (origins : StubOrigins)
  | mockServer (mock : MockServer) (origins : StubOrigins)
  | appHost (host : AppHost)
  | server (server : BackgroundServer)
  | builder (builder : TokenBuilder)
  | binding (binding : Binding)
  | keyPair (keys : KeyPair)
  | config (config : Config)
  | stub (stub : Stub)
  | endpoints (endpoints : Endpoints)
  | token (token : Token)
  /-- Makes harnesses and tears all of them down when it is closed. -/
  | factory (made : List ObjectId) (isClosed : Bool)

/-- Objects inside a harness. -/
inductive HarnessPart where
  | mockServer
  | appHost
  | binding
  deriving DecidableEq

/-- What an operation of a session takes and answers. -/
inductive Value where
  | json (value : Json)
  | bytes (value : Bytes)
  | path (value : Path)
  | service (value : Service)
  | privateKey (value : Rsa.PrivateKey)
  | publicKey (value : Rsa.PublicKey)
  | response (value : Http.Response)
  | list (values : List Value)
  | object (id : ObjectId)
  | part (owner : ObjectId) (part : HarnessPart)
  /-- An object without an identity of its own. -/
  | detached (object : SessionObject)

namespace Value

def null : Value := .json .null

def string (text : String) : Value := .json (.string text)

def ofOption {α : Type} (wrap : α → Value) : Option α → Value
  | some value => wrap value
  | none => null

end Value

end MockIssuer
