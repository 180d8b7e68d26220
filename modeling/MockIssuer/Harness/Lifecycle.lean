import MockIssuer.Harness.Basic
import MockIssuer.Http.Url

/-!
# Setting a harness up and tearing it down

A set-up starts the web application, then the mock server, then publishes the keys; what it has
started belongs to the harness at once, so a teardown after a failed set-up finds it. A teardown
tries both of its steps and reports all failures together. `enter` cleans up after a set-up that
fails, and `tearDownAll` tears several harnesses down, the last one first.
-/
namespace MockIssuer.Harness

/-- A host for the web application, before it is started. -/
def newHost : AppHost where
  entryModule := AppHost.defaultEntryModule
  appName := AppHost.defaultAppName
  host := none

/-- Starts the web application if the configuration asks for one. -/
def startApp (harness : Harness) (world : World) : Outcome Harness Unit :=
  match harness.config.usesApplicationServer, harness.config.webAppDirectory with
  | true, some directory =>
    match newHost.start directory harness.config.applicationServerPort world with
    | ⟨.error failure, _, world⟩ => ⟨.error failure, harness, world⟩
    | ⟨.ok _, host, world⟩ => ⟨.ok (), { harness with appHost := some host }, world⟩
  | _, _ => ⟨.ok (), harness, world⟩

/-- Starts the mock server and answers its base URL. -/
def startMock (harness : Harness) (world : World) : Outcome Harness String :=
  let mock := MockServer.new world.environment harness.config.mockServerPort none
  match mock.start world with
  | ⟨.error failure, _, world⟩ => ⟨.error failure, harness, world⟩
  | ⟨.ok port, mock, world⟩ =>
    ⟨.ok (localUrl port), { harness with mockServer := some mock }, world⟩

/-- The stub that publishes the keys at a URL. -/
def keySetStub (url : String) (keys : Keys) (keyId : String) : Except Failure Stub :=
  match keys with
  | .pair keys =>
    .ok ⟨"GET", String.ofList (Http.pathOf url.toList), KeySet.document keys keyId, 200,
      "application/json"⟩
  | .other value => .error (.notAKeyPair value.typeWord)

def optionalJson : Option String → Json
  | some text => .string text
  | none => .null

def signingKey : Keys → SigningKey
  | .pair keys => .rsa keys.privateKey
  | .other _ => .absent

/-- What token builders need so that tokens can be verified at the endpoints. -/
def bindingTo (harness : Harness) (endpoints : Endpoints) : Binding :=
  ⟨optionalJson harness.config.clientId, signingKey harness.keys, .string endpoints.jwksUri,
    .string harness.config.keyId⟩

/-- Publishes the keys at the endpoints of the service and binds token builders to them. -/
def publish (harness : Harness) (baseUrl : String) (world : World) : Outcome Harness Endpoints :=
  match Endpoints.resolve harness.config.service baseUrl with
  | .error failure => ⟨.error failure, harness, world⟩
  | .ok endpoints =>
    let harness := { harness with endpoints := some endpoints }
    match keySetStub endpoints.jwksUri harness.keys harness.config.keyId with
    | .error failure => ⟨.error failure, harness, world⟩
    | .ok stub =>
      let (mockServer, world) := match harness.mockServer with
        | some mock => let (mock, world) := mock.register stub world; (some mock, world)
        | none => (none, world)
      ⟨.ok endpoints,
        { harness with mockServer := mockServer, binding := some (harness.bindingTo endpoints) },
        world⟩

/-- The steps of a set-up, up to the first that fails. -/
def startAll (harness : Harness) (world : World) : Outcome Harness Endpoints :=
  match harness.startApp world with
  | ⟨.error failure, harness, world⟩ => ⟨.error failure, harness, world⟩
  | ⟨.ok (), harness, world⟩ =>
    match harness.startMock world with
    | ⟨.error failure, harness, world⟩ => ⟨.error failure, harness, world⟩
    | ⟨.ok baseUrl, harness, world⟩ => harness.publish baseUrl world

/-- Sets the harness up. -/
def setup (harness : Harness) (world : World) : Outcome Harness Unit :=
  match harness.requireNotStarted .setup with
  | .error failure => ⟨.error failure, harness, world⟩
  | .ok () =>
    let service := Json.string harness.config.service.name
    let world := world.emit .info "harness_setup_started" [("service", service),
      ("mock_server_port", .int harness.config.mockServerPort),
      ("use_application_server", .bool harness.config.usesApplicationServer)]
    match { harness with phase := .starting }.startAll world with
    | ⟨.ok endpoints, harness, world⟩ =>
      let harness := { harness with phase := .running }
      ⟨.ok (), harness, world.emit .info "harness_setup_completed"
        [("jwks_url", .string endpoints.jwksUri),
          ("application_server_url", optionalJson harness.applicationUrl)]⟩
    | ⟨.error failure, harness, world⟩ =>
      if failure.isOrdinary then
        ⟨.error failure, { harness with phase := .failed }, world.emit .error "harness_setup_failed"
          [("service", service), ("error", .string failure.message)]⟩
      else ⟨.error failure, harness, world⟩

/-- Stops the mock server and lets go of it. -/
def stopMock (harness : Harness) (world : World) : List Failure × Harness × World :=
  match harness.mockServer with
  | none => ([], harness, world)
  | some mock =>
    let harness := { harness with mockServer := none }
    match mock.stop world with
    | ⟨.ok (), _, world⟩ => ([], harness, world)
    | ⟨.error failure, _, world⟩ =>
      ([failure], harness, world.emit .error "mock_server_stop_failed"
        [("error", .string failure.message)])

/-- Stops the web application and lets go of it. -/
def stopApp (harness : Harness) (world : World) : List Failure × Harness × World :=
  match harness.appHost with
  | none => ([], harness, world)
  | some host =>
    let harness := { harness with appHost := none }
    match host.stop world with
    | ⟨.ok (), _, world⟩ => ([], harness, world)
    | ⟨.error failure, _, world⟩ =>
      ([failure], harness, world.emit .error "application_server_teardown_failed"
        [("error", .string failure.message)])

/-- Both steps of a teardown, whatever comes of the first. -/
def stopAll (harness : Harness) (world : World) : Outcome Harness Unit :=
  let (mockFailures, harness, world) := harness.stopMock world
  let (appFailures, harness, world) := harness.stopApp world
  let harness := { harness with binding := none }
  match mockFailures ++ appFailures with
  | [] =>
    ⟨.ok (), { harness with phase := .stopped }, world.emit .info "harness_teardown_completed" []⟩
  | failures => ⟨.error (.teardown .harness failures), { harness with phase := .failed }, world⟩

/-- Whether a failed harness has nothing left to stop. -/
def isSpent (harness : Harness) : Bool :=
  harness.mockServer.isNone && harness.appHost.isNone && harness.phase = .failed

/-- Tears the harness down. Before a set-up and after a teardown there is nothing to do. -/
def teardown (harness : Harness) (world : World) : Outcome Harness Unit :=
  if harness.phase = .notStarted ∨ harness.phase = .stopped then ⟨.ok (), harness, world⟩
  else if harness.isSpent then ⟨.ok (), { harness with phase := .stopped }, world⟩
  else { harness with phase := .stopping }.stopAll world

/-- Sets the harness up, and tears it down if that fails. The failure is that of the set-up. -/
def enter (harness : Harness) (world : World) : Outcome Harness Unit :=
  match harness.setup world with
  | ⟨.ok (), harness, world⟩ => ⟨.ok (), harness, world⟩
  | ⟨.error failure, harness, world⟩ =>
    if failure.isOrdinary then
      match harness.teardown world with
      | ⟨.ok (), harness, world⟩ => ⟨.error failure, harness, world⟩
      | ⟨.error cleanup, harness, world⟩ =>
        ⟨.error failure, harness, world.emit .error "harness_cleanup_after_failed_setup_failed"
          [("error", .string cleanup.message)]⟩
    else ⟨.error failure, harness, world⟩

/-- Tears harnesses down one after the other and collects the failed teardowns. A failure of another
kind ends this and leaves the rest as they are. -/
def tearDownEach : List Harness → World → Outcome (List Harness) (List Failure)
  | [], world => ⟨.ok [], [], world⟩
  | harness :: rest, world =>
    match harness.teardown world with
    | ⟨.ok (), harness, world⟩ =>
      let later := tearDownEach rest world
      ⟨later.result, harness :: later.self, later.world⟩
    | ⟨.error (.teardown fault causes), harness, world⟩ =>
      let later := tearDownEach rest world
      ⟨later.result.map (.teardown fault causes :: ·), harness :: later.self, later.world⟩
    | ⟨.error failure, harness, world⟩ => ⟨.error failure, harness :: rest, world⟩

/-- Tears down harnesses that were made one after the other, the last one first, and reports the
failed teardowns together. -/
def tearDownAll (harnesses : List Harness) (world : World) : Outcome (List Harness) Unit :=
  match tearDownEach harnesses.reverse world with
  | ⟨.ok [], left, world⟩ => ⟨.ok (), left.reverse, world⟩
  | ⟨.ok failures, left, world⟩ => ⟨.error (.teardown .factory failures), left.reverse, world⟩
  | ⟨.error failure, left, world⟩ => ⟨.error failure, left.reverse, world⟩

end MockIssuer.Harness
