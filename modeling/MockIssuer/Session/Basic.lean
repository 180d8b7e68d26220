import MockIssuer.Session.Object

/-!
# Sessions

A session holds a world, objects by their numbers and names for values. A name keeps the place at
which it was introduced, and the first name that stands for an object is the one it is known by.
-/
namespace MockIssuer

structure Session where
  world : World
  objects : List SessionObject := []
  names : List (String × Value) := []
  /-- The objects of the key pairs that the world hands out, in turn. -/
  pool : List ObjectId := []

namespace Session

/-- Lets a name stand for a value. -/
def name (session : Session) (name : String) (value : Value) : Session :=
  { session with names := Json.upsert name value session.names }

def named? (session : Session) (name : String) : Option Value :=
  session.names.lookup name

/-- The first name that stands for an object. -/
def nameOf? (session : Session) (id : ObjectId) : Option String :=
  (session.names.find? fun
    | (_, .object other) => other = id
    | _ => false).map (·.1)

/-- Adds an object and answers its number. -/
def add (session : Session) (object : SessionObject) : ObjectId × Session :=
  (session.objects.length, { session with objects := session.objects ++ [object] })

def put (session : Session) (id : ObjectId) (object : SessionObject) : Session :=
  { session with objects := session.objects.set id object }

def withWorld (session : Session) (world : World) : Session :=
  { session with world := world }

/-- The part of a harness, as an object. -/
def partOf (harness : Harness) (origins : StubOrigins) : HarnessPart → Option SessionObject
  | .mockServer => harness.mockServer.map fun mock => .mockServer mock origins
  | .appHost => harness.appHost.map .appHost
  | .binding => harness.binding.map .binding

/-- The object that a value stands for. -/
def object? (session : Session) : Value → Option SessionObject
  | .object id => session.objects[id]?
  | .detached object => some object
  | .part owner part =>
    match session.objects[owner]? with
    | some (.harness harness _ origins) => partOf harness origins part
    | _ => none
  | _ => none

/-- Puts a changed part back into its harness. -/
def putPart (session : Session) (owner : ObjectId) (object : SessionObject) : Session :=
  match session.objects[owner]?, object with
  | some (.harness harness keys _), .mockServer mock origins =>
    session.put owner (.harness { harness with mockServer := some mock } keys origins)
  | some (.harness harness keys origins), .appHost host =>
    session.put owner (.harness { harness with appHost := some host } keys origins)
  | _, _ => session

/-- Replaces the object that a value stands for. -/
def update (session : Session) (value : Value) (object : SessionObject) : Session :=
  match value with
  | .object id => session.put id object
  | .part owner _ => session.putPart owner object
  | _ => session

/-- The object of the next key pair that the world hands out. -/
def nextPoolObject? (session : Session) : Option ObjectId :=
  session.pool[session.world.generated.length % session.pool.length]?

/-- A stub of a table, as the object that was registered if there is one. -/
def stubValue (origins : StubOrigins) (stub : Stub) : Value :=
  match origins.lookup (stub.method, stub.path) with
  | some id => .object id
  | none => .detached (.stub stub)

/-- Remembers the object that a stub came from. -/
def addOrigin (origins : StubOrigins) (stub : Stub) (id : ObjectId) : StubOrigins :=
  ((stub.method, stub.path), id) :: origins

/-- Forgets the log events so far. -/
def clearLog (session : Session) : Session :=
  session.withWorld { session.world with log := [] }

/-- Answers a request to the application of a mock server or a host, where there is one. -/
def request? (session : Session) (target : Value) (request : Http.Request) :
    Option (Http.Answer × Session) :=
  match session.object? target with
  | some (.mockServer mock origins) =>
    let (answer, mock, world) := mock.handle request session.world
    some (answer, (session.withWorld world).update target (.mockServer mock origins))
  | some (.appHost host) =>
    if host.server.isNone then none
    else
      let (answer, host) := host.handle request session.world
      some (answer, session.update target (.appHost host))
  | some (.harness harness keys origins) =>
    match harness.appHost with
    | none => none
    | some host =>
      let (answer, host) := host.handle request session.world
      some (answer, session.update target
        (.harness { harness with appHost := some host } keys origins))
  | _ => none

end Session

end MockIssuer
