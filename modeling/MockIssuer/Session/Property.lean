import MockIssuer.Session.Basic

/-!
# Properties

What a session can read off an object. A part of a harness that is not there reads as null.
-/
namespace MockIssuer

inductive Property where
  | phase
  | config
  | keys
  | service
  | endpoints
  | mockServer
  | appHost
  | applicationUrl
  | binding
  | port
  | baseUrl
  | isRunning
  | workingArea
  | stubs
  | requests
  | clientId
  | keyId
  | jwksUrl
  | privateKey
  | publicKey
  | tokenValue
  | headers
  | claims
  | method
  | path
  | body
  | statusCode
  | contentType
  | mockServerPort
  | usesApplicationServer
  | webAppDirectory
  | applicationServerPort
  | tokenEndpoint
  | authorizeEndpoint
  | delegationTokenEndpoint
  | jwksUri
  deriving DecidableEq, Repr

namespace Session

/-- A value that can be read off an object of some kind. -/
abbrev Reading := Option (Except Failure Value)

def reads (value : Value) : Reading := some (.ok value)

def readsText (text : String) : Reading := reads (.string text)

def readsInt (n : Int) : Reading := reads (.json (.int n))

def readsPort (port : Except Failure Nat) : Reading :=
  some (port.map fun port => .json (.int port))

def partWhere (owner : ObjectId) (part : HarnessPart) (isThere : Bool) : Value :=
  if isThere then .part owner part else .null

def readHarness (target : Value) (harness : Harness) (keys : Option ObjectId) :
    Property → Reading
  | .phase => readsText harness.phase.name
  | .config => reads (.detached (.config harness.config))
  | .keys =>
    match keys, harness.keys with
    | some id, _ => reads (.object id)
    | none, .pair keys => reads (.detached (.keyPair keys))
    | none, .other (.json value) => reads (.json value)
    | none, .other (.service service) => reads (.service service)
    | none, .other (.path path) => reads (.path path)
    | none, .other (.object _) => reads .null
  | .service => reads (.service harness.config.service)
  | .endpoints => reads (Value.ofOption (fun e => .detached (.endpoints e)) harness.endpoints)
  | .applicationUrl => reads (Value.ofOption .string harness.applicationUrl)
  | property =>
    match target, property with
    | .object id, .mockServer => reads (partWhere id .mockServer harness.mockServer.isSome)
    | .object id, .appHost => reads (partWhere id .appHost harness.appHost.isSome)
    | .object id, .binding => reads (partWhere id .binding harness.binding.isSome)
    | _, _ => none

def readMock (mock : MockServer) (origins : StubOrigins) : Property → Reading
  | .port => readsPort mock.port
  | .baseUrl => some (mock.baseUrl.map .string)
  | .isRunning => reads (.json (.bool mock.isRunning))
  | .stubs => reads (.list (mock.stubs.map (stubValue origins)))
  | .requests =>
    reads (.json (.array (mock.journal.map fun (method, target) =>
      .array [.string method, .string target])))
  | _ => none

def readHost (host : AppHost) : Property → Reading
  | .port => readsPort host.port
  | .baseUrl => some (host.baseUrl.map .string)
  | .isRunning => reads (.json (.bool host.isRunning))
  | .workingArea => reads (Value.ofOption (fun area => .path (World.pathOf area)) host.workingArea)
  | _ => none

def readServer (server : BackgroundServer) : Property → Reading
  | .port => readsPort server.port
  | .isRunning => reads (.json (.bool server.isRunning))
  | _ => none

def keyValue : SigningKey → Value
  | .rsa key => .privateKey key
  | .ofText text => .json (.string text)
  | .absent | .unusable => .null

def readBinding (binding : Binding) : Property → Reading
  | .clientId => reads (.json binding.clientId)
  | .privateKey => reads (keyValue binding.key)
  | .jwksUrl => reads (.json binding.jwksUrl)
  | .keyId => reads (.json binding.keyId)
  | _ => none

def readConfig (config : Config) : Property → Reading
  | .service => reads (.service config.service)
  | .mockServerPort => readsInt config.mockServerPort
  | .usesApplicationServer => reads (.json (.bool config.usesApplicationServer))
  | .webAppDirectory => reads (Value.ofOption .path config.webAppDirectory)
  | .applicationServerPort => readsInt config.applicationServerPort
  | .clientId => reads (Value.ofOption .string config.clientId)
  | .keyId => readsText config.keyId
  | _ => none

def readStub (stub : Stub) : Property → Reading
  | .method => readsText stub.method
  | .path => readsText stub.path
  | .body => readsText stub.body
  | .statusCode => readsInt stub.statusCode
  | .contentType => readsText stub.contentType
  | _ => none

def readEndpoints (endpoints : Endpoints) : Property → Reading
  | .baseUrl => readsText endpoints.baseUrl
  | .tokenEndpoint => readsText endpoints.tokenEndpoint
  | .authorizeEndpoint => readsText endpoints.authorizeEndpoint
  | .delegationTokenEndpoint => readsText endpoints.delegationTokenEndpoint
  | .jwksUri => readsText endpoints.jwksUri
  | _ => none

def readToken (token : Token) : Property → Reading
  | .tokenValue => readsText token.value
  | .headers => reads (.json (.object token.headers))
  | .claims => reads (.json (.object token.claims))
  | .clientId => reads (.json token.clientId)
  | .keyId => reads (.json token.keyId)
  | .jwksUrl => reads (.json token.jwksUrl)
  | _ => none

def readKeyPair (keys : KeyPair) : Property → Reading
  | .privateKey => reads (.privateKey keys.privateKey)
  | .publicKey => reads (.publicKey keys.publicKey)
  | _ => none

/-- Reads a property of the object that a value stands for, if such objects have it. -/
def read? (session : Session) (target : Value) (property : Property) : Reading :=
  match session.object? target with
  | some (.harness harness keys _) => readHarness target harness keys property
  | some (.mockServer mock origins) => readMock mock origins property
  | some (.appHost host) => readHost host property
  | some (.server server) => readServer server property
  | some (.builder builder) =>
    match property with
    | .service => reads (.service builder.service)
    | _ => none
  | some (.binding binding) => readBinding binding property
  | some (.keyPair keys) => readKeyPair keys property
  | some (.config config) => readConfig config property
  | some (.stub stub) => readStub stub property
  | some (.endpoints endpoints) => readEndpoints endpoints property
  | some (.token token) => readToken token property
  | _ => none

/-- Why a field of an object cannot be set: records are not changed once they are made. -/
def assignmentFailure? (field : String) : SessionObject → Option Failure
  | .binding _ => some (.frozenField field)
  | .config _ | .stub _ | .endpoints _ | .token _ => some (.invalidRecord [⟨some field, .frozen⟩])
  | _ => none

end Session

end MockIssuer
