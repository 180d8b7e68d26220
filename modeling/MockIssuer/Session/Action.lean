import MockIssuer.Session.Construction

/-!
# Actions

What a session can do with an object. An action that changes the object it is done to answers that
object again where actions are meant to be chained.
-/
namespace MockIssuer

inductive Action where
  | setPort (port : Raw)
  | setClientId (clientId : Raw)
  | setKeyId (keyId : Raw)
  /-- The keys, and the object that they are if they are a key pair. -/
  | setKeys (keys : Keys) (origin : Option ObjectId)
  | useApplicationServer (directory port : Raw)
  | setup
  | teardown
  | enter
  | tokenBuilder
  | createToken
  | start
  | startIn (directory : Raw) (port : Int)
  | stop
  | registerStub (stub : ObjectId)
  | registerFields (fields : Raw.Fields)
  | resetRequests
  | respond (method path query : String)
  | withKey (key : SigningKey)
  | withClaim (name : String) (value : Json)
  | withHeader (name : String) (value : Json)
  | withScopes (scopes : List Json)
  | withTtl (ttl : Json)
  | withExpiresAt (time : Json)
  | applyTo (builder : Value)
  | createBuilder (service : Service)
  | tokenText
  | authorizationHeader
  | encodedPublicKey
  | encodedPublicKeyText
  | privatePem
  | publicPem
  | makeHarness (service : Raw)

namespace Session

/-- The answer of an action, and the session after it. -/
abbrev Result := Except Failure Value × Session

/-- Answers a token as a new object. -/
def tokenResult (session : Session) : Except Failure Token × World → Result
  | (result, world) => (session.withWorld world).adding .token result

/-- Actions on a harness that change its settings; they answer the harness. -/
def changeHarness (session : Session) (target : Value) (keys : Option ObjectId)
    (origins : StubOrigins) : Except Failure Harness → Result
  | .ok harness => (.ok target, session.update target (.harness harness keys origins))
  | .error failure => (.error failure, session)

/-- The origins of the stubs of a harness after an action: they go with its mock server. -/
def keptOrigins (harness : Harness) (origins : StubOrigins) : StubOrigins :=
  if harness.mockServer.isSome then origins else []

def stepHarness (session : Session) (target : Value) (keys : Option ObjectId)
    (origins : StubOrigins) (answer : Value) (outcome : Outcome Harness Unit) : Result :=
  (outcome.result.map fun _ => answer,
    (session.withWorld outcome.world).update target
      (.harness outcome.self keys (keptOrigins outcome.self origins)))

def onHarness (session : Session) (target : Value) (harness : Harness) (keys : Option ObjectId)
    (origins : StubOrigins) : Action → Option Result
  | .setPort port => some (session.changeHarness target keys origins (harness.setPort port))
  | .setClientId clientId =>
    some (session.changeHarness target keys origins (harness.setClientId clientId))
  | .setKeyId keyId => some (session.changeHarness target keys origins (harness.setKeyId keyId))
  | .setKeys given origin =>
    some (session.changeHarness target origin origins (harness.setKeys given))
  | .useApplicationServer directory port =>
    some (session.changeHarness target keys origins (harness.useApplicationServer directory port))
  | .setup => some (session.stepHarness target keys origins .null (harness.setup session.world))
  | .teardown =>
    some (session.stepHarness target keys origins .null (harness.teardown session.world))
  | .enter => some (session.stepHarness target keys origins target (harness.enter session.world))
  | .tokenBuilder => some (session.adding .builder (harness.tokenBuilder session.world))
  | .createToken => some (session.tokenResult (harness.createToken session.world))
  | _ => none

/-- A number as an answer. -/
def portAnswer (result : Except Failure Nat) : Except Failure Value :=
  result.map fun port => .json (.int port)

def onMock (session : Session) (target : Value) (mock : MockServer) (origins : StubOrigins) :
    Action → Option Result
  | .start =>
    let outcome := mock.start session.world
    some (portAnswer outcome.result,
      (session.withWorld outcome.world).update target (.mockServer outcome.self origins))
  | .stop =>
    let outcome := mock.stop session.world
    some (outcome.result.map fun _ => .null,
      (session.withWorld outcome.world).update target (.mockServer outcome.self origins))
  | .registerStub id =>
    match session.objects[id]? with
    | some (.stub stub) =>
      let (mock, world) := mock.register stub session.world
      some (.ok (.object id),
        (session.withWorld world).update target (.mockServer mock (addOrigin origins stub id)))
    | _ => none
  | .registerFields fields =>
    let outcome := mock.registerFields fields session.world
    match outcome.result with
    | .error failure => some (.error failure, session)
    | .ok stub =>
      let (id, session) := session.add (.stub stub)
      some (.ok (.object id), (session.withWorld outcome.world).update target
        (.mockServer outcome.self (addOrigin origins stub id)))
  | .resetRequests =>
    some (.ok .null, session.update target (.mockServer mock.resetRequests origins))
  | .respond method path query =>
    let outcome := mock.respond method path query session.world
    some (outcome.result.map .response,
      (session.withWorld outcome.world).update target (.mockServer outcome.self origins))
  | _ => none

def onHost (session : Session) (target : Value) (host : AppHost) : Action → Option Result
  | .startIn directory port =>
    match host.server, directory.pathOf with
    | none, .error _ => some (.error (.wrongType (.notAPath directory.typeWord)), session)
    | _, path =>
      let outcome := host.start (path.toOption.getD ⟨0, []⟩) port session.world
      some (outcome.result.map .string,
        (session.withWorld outcome.world).update target (.appHost outcome.self))
  | .stop =>
    let outcome := host.stop session.world
    some (outcome.result.map fun _ => .null,
      (session.withWorld outcome.world).update target (.appHost outcome.self))
  | _ => none

def onServer (session : Session) (target : Value) (server : BackgroundServer) :
    Action → Option Result
  | .start =>
    let outcome := server.start session.world
    some (portAnswer outcome.result,
      (session.withWorld outcome.world).update target (.server outcome.self))
  | .stop =>
    let outcome := server.stop session.world
    some (outcome.result.map fun _ => .null,
      (session.withWorld outcome.world).update target (.server outcome.self))
  | _ => none

def onBuilder (session : Session) (target : Value) (builder : TokenBuilder) (action : Action) :
    Option Result :=
  let change (builder : TokenBuilder) : Option Result :=
    some (.ok target, session.update target (.builder builder))
  match action with
  | .withKey key => change (builder.withKey key)
  | .withClaim name value => change (builder.withClaim name value)
  | .withHeader name value => change (builder.withHeader name value)
  | .withScopes scopes => change (builder.withScopes scopes)
  | .withTtl ttl => change (builder.withTtl ttl)
  | .withExpiresAt time => change (builder.withExpiresAt time)
  | .createToken => some (session.tokenResult (builder.create session.world))
  | _ => none

def onBinding (session : Session) (binding : Binding) : Action → Option Result
  | .applyTo value =>
    match session.object? value with
    | some (.builder builder) =>
      some (.ok value, session.update value (.builder (binding.apply builder)))
    | _ => none
  | .createBuilder service =>
    some (session.adding .builder (binding.createBuilder session.world.environment service))
  | _ => none

def onToken (session : Session) (token : Token) : Action → Option Result
  | .tokenText => some (.ok (.string token.value), session)
  | .authorizationHeader => some (.ok (.string token.authorizationHeader), session)
  | _ => none

def onKeyPair (session : Session) (keys : KeyPair) : Action → Option Result
  | .encodedPublicKey => some (.ok (.bytes keys.encodedPublicKey), session)
  | .encodedPublicKeyText => some (.ok (.string keys.encodedPublicKeyText), session)
  | .privatePem => some (.ok (.bytes keys.privatePem), session)
  | .publicPem => some (.ok (.bytes keys.publicPem), session)
  | _ => none

/-- Makes a harness that belongs to a factory. -/
def makeHarness (session : Session) (target : Value) (made : List ObjectId) (isClosed : Bool)
    (service : Raw) : Result :=
  match session.construct (.harness service) with
  | (.ok (.object id), session) =>
    (.ok (.object id), session.update target (.factory (made ++ [id]) isClosed))
  | result => result

/-- Does an action to the object that a value stands for, if it is one for such objects. -/
def perform? (session : Session) (target : Value) (action : Action) : Option Result :=
  match session.object? target with
  | some (.harness harness keys origins) => session.onHarness target harness keys origins action
  | some (.mockServer mock origins) => session.onMock target mock origins action
  | some (.appHost host) => session.onHost target host action
  | some (.server server) => session.onServer target server action
  | some (.builder builder) => session.onBuilder target builder action
  | some (.binding binding) => session.onBinding binding action
  | some (.token token) => session.onToken token action
  | some (.keyPair keys) => session.onKeyPair keys action
  | some (.factory made isClosed) =>
    match action with
    | .makeHarness service => some (session.makeHarness target made isClosed service)
    | _ => none
  | _ => none

/-- A new factory. -/
def openFactory (session : Session) : Value × Session :=
  let (id, session) := session.add (.factory [] false)
  (.object id, session)

def harness? (session : Session) (id : ObjectId) : Option Harness :=
  match session.objects[id]? with
  | some (.harness harness _ _) => some harness
  | _ => none

/-- The harnesses among some objects. -/
def harnessesOf (session : Session) (ids : List ObjectId) : List Harness :=
  ids.filterMap session.harness?

/-- Puts changed harnesses back. -/
def putHarnesses (session : Session) : List (ObjectId × Harness) → Session
  | [] => session
  | (id, harness) :: rest =>
    let session := match session.objects[id]? with
      | some (.harness _ keys origins) =>
        session.put id (.harness harness keys (keptOrigins harness origins))
      | _ => session
    putHarnesses session rest

/-- Tears down everything that a factory made, once. -/
def closeFactory (session : Session) (target : Value) : Except Failure Unit × Session :=
  match session.object? target with
  | some (.factory made false) =>
    let outcome := Harness.tearDownAll (session.harnessesOf made) session.world
    let session := (session.withWorld outcome.world).update target (.factory made true)
    (outcome.result, session.putHarnesses (made.zip outcome.self))
  | _ => (.ok (), session)

end Session

end MockIssuer
