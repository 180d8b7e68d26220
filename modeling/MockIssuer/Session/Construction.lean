import MockIssuer.Session.Basic

/-!
# Making objects

The objects that a session can make, and what each of them is made from.
-/
namespace MockIssuer

/-- An object to make. -/
inductive Construction where
  | harness (service : Raw)
  | mockServer (port : Int) (host : Option String)
  | appHost (entryModule appName : String) (host : Option String)
  | server (name : String) (port : Int) (host : Option String)
  | builder (service : Service)
  | binding (clientId : Json) (key : SigningKey) (jwksUrl keyId : Json)
  | config (fields : Raw.Fields)
  | stub (fields : Raw.Fields)
  | endpoints (fields : Raw.Fields)
  | token (fields : Raw.Fields)
  | keyPair (privateHalf : KeyMaterial) (publicHalf : Option KeyMaterial)
  | generatedKeyPair (size : Nat)

namespace Session

/-- Adds an object, or passes on why it could not be made. -/
def adding {α : Type} (session : Session) (wrap : α → SessionObject) :
    Except Failure α → Except Failure Value × Session
  | .error failure => (.error failure, session)
  | .ok value =>
    let (id, session) := session.add (wrap value)
    (.ok (.object id), session)

def recordOf {α : Type} (result : Except (List Violation) α) : Except Failure α :=
  result.mapError .invalidRecord

/-- Hands out a key pair. One from the pool is the object that it was before. -/
def generate (session : Session) (size : Nat) : Except Failure Value × Session :=
  let origin := session.nextPoolObject?
  let (result, world) := session.world.generateKeys size
  let session := session.withWorld world
  match result, origin with
  | .ok _, some id => (.ok (.object id), session)
  | result, _ => session.adding .keyPair result

/-- Makes an object. -/
def construct (session : Session) : Construction → Except Failure Value × Session
  | .harness service =>
    let origin := session.nextPoolObject?
    let (result, world) := Harness.new service session.world
    (session.withWorld world).adding (fun harness => .harness harness origin []) result
  | .mockServer port host =>
    session.adding (fun mock => .mockServer mock [])
      (.ok (MockServer.new session.world.environment port host))
  | .appHost entryModule appName host =>
    session.adding (α := AppHost) .appHost
      (.ok { entryModule := entryModule, appName := appName, host := host })
  | .server name port host =>
    session.adding .server (.ok (BackgroundServer.new session.world.environment name port host))
  | .builder service =>
    session.adding .builder (TokenBuilder.new session.world.environment service)
  | .binding clientId key jwksUrl keyId =>
    session.adding .binding (.ok ⟨clientId, key, jwksUrl, keyId⟩)
  | .config fields => session.adding .config (recordOf (Config.ofFields fields))
  | .stub fields => session.adding .stub (recordOf (Stub.ofFields fields))
  | .endpoints fields => session.adding .endpoints (recordOf (Endpoints.ofFields fields))
  | .token fields => session.adding .token (recordOf (Token.ofFields fields))
  | .keyPair privateHalf publicHalf =>
    session.adding .keyPair (KeyPair.ofPem privateHalf publicHalf)
  | .generatedKeyPair size => session.generate size

end Session

end MockIssuer
