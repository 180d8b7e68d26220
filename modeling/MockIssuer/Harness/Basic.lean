import MockIssuer.Config.Basic
import MockIssuer.Host.Basic
import MockIssuer.KeySet
import MockIssuer.Server.Mock
import MockIssuer.Token.Binding

/-!
# Harnesses

A harness ties a mock identity server, a web application and a key pair together. Settings are
changed before it is set up and never afterwards.
-/
namespace MockIssuer

/-- What a harness was given as its keys. -/
inductive Keys where
  | pair (keys : KeyPair)
  /-- Something else, which is found out when the keys are published. -/
  | other (value : Raw)

structure Harness where
  config : Config
  keys : Keys
  phase : Phase := .notStarted
  mockServer : Option MockServer := none
  appHost : Option AppHost := none
  endpoints : Option Endpoints := none
  binding : Option Binding := none

namespace Harness

/-- A harness for a service, with a new key pair. -/
def new (service : Raw) (world : World) : Except Failure Harness × World :=
  match Config.forService service with
  | .error violations => (.error (.invalidRecord violations), world)
  | .ok config =>
    let (keys, world) := world.generateKeys KeyPair.defaultSize
    (keys.map fun keys => { config := config, keys := .pair keys }, world)

/-- Refuses an operation that belongs before the set-up. -/
def requireNotStarted (harness : Harness) (operation : Operation) : Except Failure Unit :=
  if harness.phase = .notStarted then .ok () else .error (.tooLate operation harness.phase)

/-- Changes some settings; where they make no configuration, none is changed. -/
def configure (harness : Harness) (operation : Operation) (changes : Raw.Fields) :
    Except Failure Harness :=
  match harness.requireNotStarted operation with
  | .error failure => .error failure
  | .ok () =>
    match harness.config.change changes with
    | .ok config => .ok { harness with config := config }
    | .error violations => .error (.invalidSetting operation violations)

/-- Sets the port of the mock server; zero stands for a free one. -/
def setPort (harness : Harness) (port : Raw) : Except Failure Harness :=
  harness.configure .setPort [("mock_server_port", port)]

/-- Sets the client id of tokens. -/
def setClientId (harness : Harness) (clientId : Raw) : Except Failure Harness :=
  harness.configure .setClientId [("client_id", clientId)]

def setKeyId (harness : Harness) (keyId : Raw) : Except Failure Harness :=
  harness.configure .setKeyId [("key_id", keyId)]

/-- Replaces the key pair. -/
def setKeys (harness : Harness) (keys : Keys) : Except Failure Harness :=
  (harness.requireNotStarted .setKeys).map fun _ => { harness with keys := keys }

/-- Serves the web application in a directory during the set-up. What is no path at all is refused
before anything else. -/
def useApplicationServer (harness : Harness) (directory port : Raw) : Except Failure Harness :=
  match directory.pathOf with
  | .error _ => .error (.wrongType (.notAPath directory.typeWord))
  | .ok path =>
    harness.configure .useApplicationServer [("use_application_server", .json (.bool true)),
      ("webapp_dir", .path path), ("application_server_port", port)]

/-- The base URL of the web application while it runs. -/
def applicationUrl (harness : Harness) : Option String :=
  match harness.appHost with
  | none => none
  | some host => if host.isRunning then host.baseUrl.toOption else none

/-- A builder whose tokens the mock server lets others verify. -/
def tokenBuilder (harness : Harness) (world : World) : Except Failure TokenBuilder :=
  match harness.phase, harness.binding with
  | .running, some binding => binding.createBuilder world.environment harness.config.service
  | phase, _ => .error (.noGenerator phase)

/-- Makes a token with the claims of the configuration. -/
def createToken (harness : Harness) (world : World) : Except Failure Token × World :=
  match harness.tokenBuilder world with
  | .error failure => (.error failure, world)
  | .ok builder =>
    match builder.create world with
    | (.error failure, world) => (.error failure, world)
    | (.ok token, world) =>
      (.ok token, world.emit .debug "harness_token_created"
        [("token", .string (Log.mask Log.visibleCount token.value))])

end Harness

end MockIssuer
