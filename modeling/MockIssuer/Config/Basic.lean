import MockIssuer.Config.Raw

/-!
# Harness configuration

The settings of a harness as one value. A configuration is made from untyped fields, all of which
are checked before the rule that an application server needs a directory. Changing settings writes
the configuration back as fields, puts the changes over them and makes a new one, so a refused
change leaves no trace.
-/
namespace MockIssuer

structure Config where
  service : Service
  mockServerPort : Int
  usesApplicationServer : Bool
  webAppDirectory : Option Path
  applicationServerPort : Int
  clientId : Option String
  keyId : String
  deriving DecidableEq

namespace Config

def defaultApplicationServerPort : Int := 44195
def defaultClientId : String := "sb-clientId!20"
def defaultKeyId : String := "default-kid"

/-- The rule on a whole configuration. -/
def check (config : Config) : Except (List Violation) Config :=
  if config.usesApplicationServer && config.webAppDirectory.isNone then
    .error [⟨none, .refused "use_application_server requires webapp_dir"⟩]
  else .ok config

/-- The configuration of some fields, or what is wrong with them, in the order of the fields. -/
def ofFields (fields : Raw.Fields) : Except (List Violation) Config :=
  let service := Raw.field fields "service" Raw.toService none
  let mockServerPort :=
    Raw.field fields "mock_server_port" (Raw.integerWithin 0 65535) (some 0)
  let usesApplicationServer :=
    Raw.field fields "use_application_server" Raw.boolean (some false)
  let webAppDirectory := Raw.field fields "webapp_dir" (Raw.optional Raw.toPath) (some none)
  let applicationServerPort :=
    Raw.field fields "application_server_port" (Raw.integerWithin 1 65535)
      (some defaultApplicationServerPort)
  let clientId :=
    Raw.field fields "client_id" (Raw.optional Raw.string) (some (some defaultClientId))
  let keyId := Raw.field fields "key_id" Raw.nonemptyString (some defaultKeyId)
  match service, mockServerPort, usesApplicationServer, webAppDirectory, applicationServerPort,
      clientId, keyId with
  | .ok service, .ok mockServerPort, .ok usesApplicationServer, .ok webAppDirectory,
      .ok applicationServerPort, .ok clientId, .ok keyId =>
    check ⟨service, mockServerPort, usesApplicationServer, webAppDirectory,
      applicationServerPort, clientId, keyId⟩
  | _, _, _, _, _, _, _ =>
    .error ([Raw.violation? "service" service,
      Raw.violation? "mock_server_port" mockServerPort,
      Raw.violation? "use_application_server" usesApplicationServer,
      Raw.violation? "webapp_dir" webAppDirectory,
      Raw.violation? "application_server_port" applicationServerPort,
      Raw.violation? "client_id" clientId,
      Raw.violation? "key_id" keyId].filterMap id)

def optionalString : Option String → Raw
  | some text => .json (.string text)
  | none => .json .null

/-- A configuration written back as fields. -/
def toFields (config : Config) : Raw.Fields :=
  [("service", .service config.service),
    ("mock_server_port", .json (.int config.mockServerPort)),
    ("use_application_server", .json (.bool config.usesApplicationServer)),
    ("webapp_dir", match config.webAppDirectory with
      | some directory => .path directory
      | none => .json .null),
    ("application_server_port", .json (.int config.applicationServerPort)),
    ("client_id", optionalString config.clientId),
    ("key_id", .json (.string config.keyId))]

/-- The configuration with some fields changed. -/
def change (config : Config) (changes : Raw.Fields) : Except (List Violation) Config :=
  ofFields (changes.foldl (fun fields (name, value) => Json.upsert name value fields)
    config.toFields)

/-- The configuration for a service, with all other settings at their defaults. -/
def forService (service : Raw) : Except (List Violation) Config :=
  ofFields [("service", service)]

end Config

end MockIssuer
