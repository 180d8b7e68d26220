import MockIssuer.Harness.Lifecycle
import MockIssuer.Proofs.FreePorts

/-!
# What a set-up leaves

Each step of a set-up either fails or leaves a harness that owns one thing more. The three steps are
described one by one, and a set-up that succeeds is put together from them (`setup_of_ok`): the
harness runs, its endpoints are those of its service at the address of the mock server that it owns,
the stub table of that server holds the key set and nothing else, and the binding says what the
configuration and the keys say.
-/
namespace MockIssuer

/-- Two worlds that differ in their logs at most. -/
def World.SameState (world after : World) : Prop :=
  ∃ log, after = { world with log := log }

namespace World.SameState
variable {first second third : World}

lemma refl (world : World) : world.SameState world := ⟨world.log, rfl⟩

lemma trans (h : first.SameState second) (hh : second.SameState third) :
    first.SameState third := by
  obtain ⟨log, rfl⟩ := h
  obtain ⟨log', rfl⟩ := hh
  exact ⟨log', rfl⟩

lemma emit (h : first.SameState second) (level : Log.Level) (name : String)
    (fields : Json.Fields) : first.SameState (second.emit level name fields) :=
  h.trans ⟨_, rfl⟩

end World.SameState

namespace BackgroundServer

/-- A server whose thread was started on a port. -/
def withThread (server : BackgroundServer) (port : ℕ) (thread : Thread) : BackgroundServer :=
  { server with running := some ⟨port, true, thread⟩ }

lemma start_of_isSome {server : BackgroundServer} (hr : server.running.isSome = true)
    (world : World) :
    server.start world = ⟨.error (.startedBefore server.name), server, world⟩ := by
  unfold start
  rw [if_pos hr]

lemma start_cases {server : BackgroundServer} (hn : server.running = none) (world : World) :
    (∃ failure, world.bind server.host server.requestedPort = (.error failure, world) ∧
      server.start world = ⟨.error failure, server, world⟩) ∨
    ∃ port thread bound world', world.bind server.host server.requestedPort = (.ok port, bound) ∧
      server.start world = ⟨.ok port, server.withThread port thread, world'⟩ ∧
      bound.SameState world' := by
  have hsome : server.running.isSome = false := by rw [hn]; rfl
  unfold start
  rw [hsome]
  rcases hb : world.bind server.host server.requestedPort with ⟨failure | port, bound⟩
  · have hw : bound = world := by
      have hh := World.bind_of_error (congrArg Prod.fst hb)
      rwa [hb] at hh
    subst hw
    exact Or.inl ⟨failure, rfl, rfl⟩
  · refine Or.inr ⟨port, _, bound, _, rfl, rfl, ?_⟩
    have hl : bound.SameState (server.launch port bound).2 := by
      unfold launch
      split
      · exact .refl _
      · exact .refl _
      · exact (World.SameState.refl _).emit _ _ _
    exact hl.emit _ _ _

end BackgroundServer

namespace MockServer

/-- A mock server whose thread was started on a port. -/
def withThread (mock : MockServer) (port : ℕ) (thread : Thread) : MockServer :=
  { mock with server := mock.server.withThread port thread }

lemma start_cases {mock : MockServer} (hn : mock.server.running = none) (world : World) :
    (∃ failure, world.bind mock.server.host mock.server.requestedPort = (.error failure, world) ∧
      mock.start world = ⟨.error failure, mock, world⟩) ∨
    ∃ port thread bound world',
      world.bind mock.server.host mock.server.requestedPort = (.ok port, bound) ∧
      mock.start world = ⟨.ok port, mock.withThread port thread, world'⟩ ∧
      bound.SameState world' := by
  rcases BackgroundServer.start_cases hn world with ⟨failure, hb, hs⟩ |
    ⟨port, thread, bound, world', hb, hs, hw⟩
  · refine Or.inl ⟨failure, hb, ?_⟩
    rw [start, hs]
  · refine Or.inr ⟨port, thread, bound, _, hb, ?_,
      hw.emit .info "mock_server_started" [("port", .int port)]⟩
    rw [start, hs]
    rfl

end MockServer

namespace Harness

/-- Whether the configuration asks for a web application and says where it is. -/
def asksForApp (harness : Harness) : Bool :=
  harness.config.usesApplicationServer && harness.config.webAppDirectory.isSome

/-- What the first step leaves where it does not fail: the host that the harness owns then, and the
world. -/
def AppStarted (harness : Harness) (world : World) (appHost : Option AppHost) (after : World) :
    Prop :=
  (harness.asksForApp = false ∧ appHost = harness.appHost ∧ after = world) ∨
  ∃ directory url host, harness.asksForApp = true ∧
    newHost.start directory harness.config.applicationServerPort world = ⟨.ok url, host, after⟩ ∧
    appHost = some host

lemma startApp_cases (harness : Harness) (world : World) :
    (∃ directory failure host world', harness.asksForApp = true ∧
      newHost.start directory harness.config.applicationServerPort world =
        ⟨.error failure, host, world'⟩ ∧
      harness.startApp world = ⟨.error failure, harness, world'⟩) ∨
    ∃ appHost first, harness.AppStarted world appHost first ∧
      harness.startApp world = ⟨.ok (), { harness with appHost := appHost }, first⟩ := by
  unfold startApp
  split
  · next directory hu hd =>
    have hasks : harness.asksForApp = true := by simp [asksForApp, hu, hd]
    split
    · next failure host world' hs =>
      exact Or.inl ⟨directory, failure, host, world', hasks, hs, rfl⟩
    · next url host world' hs =>
      exact Or.inr ⟨some host, world', Or.inr ⟨directory, url, host, hasks, hs, rfl⟩, rfl⟩
  · next hno =>
    have hasks : harness.asksForApp = false := by
      cases hu : harness.config.usesApplicationServer with
      | false => simp [asksForApp, hu]
      | true =>
        cases hd : harness.config.webAppDirectory with
        | none => simp [asksForApp, hd]
        | some directory => exact absurd hd (hno directory hu)
    exact Or.inr ⟨harness.appHost, world, Or.inl ⟨hasks, rfl, rfl⟩, rfl⟩

/-- The mock server that a set-up starts. -/
def newMock (harness : Harness) (world : World) : MockServer :=
  .new world.environment harness.config.mockServerPort none

lemma startMock_cases (harness : Harness) (world : World) :
    (∃ failure, world.bind (harness.newMock world).server.host harness.config.mockServerPort =
        (.error failure, world) ∧
      harness.startMock world = ⟨.error failure, harness, world⟩) ∨
    ∃ port thread bound world',
      world.bind (harness.newMock world).server.host harness.config.mockServerPort =
        (.ok port, bound) ∧
      harness.startMock world = ⟨.ok (localUrl port),
        { harness with mockServer := some ((harness.newMock world).withThread port thread) },
        world'⟩ ∧
      bound.SameState world' := by
  have hn : (harness.newMock world).server.running = none := rfl
  rcases MockServer.start_cases hn world with ⟨failure, hb, hs⟩ |
    ⟨port, thread, bound, world', hb, hs, hw⟩
  · refine Or.inl ⟨failure, hb, ?_⟩
    unfold newMock at hs
    simp only [startMock, hs]
  · refine Or.inr ⟨port, thread, bound, world', hb, ?_, hw⟩
    unfold newMock at hs ⊢
    simp only [startMock, hs]

/-- The third step, of a harness that owns a mock server: the keys are published and bound. -/
lemma publish_cases {harness : Harness} {mock : MockServer} (hm : harness.mockServer = some mock)
    (url : String) (world : World) :
    (∃ failure, Endpoints.resolve harness.config.service url = .error failure ∧
      harness.publish url world = ⟨.error failure, harness, world⟩) ∨
    ∃ endpoints, Endpoints.resolve harness.config.service url = .ok endpoints ∧
      ((∃ failure, keySetStub endpoints.jwksUri harness.keys harness.config.keyId = .error failure ∧
        harness.publish url world =
          ⟨.error failure, { harness with endpoints := some endpoints }, world⟩) ∨
      ∃ stub world', keySetStub endpoints.jwksUri harness.keys harness.config.keyId = .ok stub ∧
        harness.publish url world = ⟨.ok endpoints,
          { harness with
            endpoints := some endpoints
            mockServer := some { mock with stubs := mock.stubs.register stub }
            binding := some (harness.bindingTo endpoints) }, world'⟩ ∧
        world.SameState world') := by
  unfold publish
  cases hr : Endpoints.resolve harness.config.service url with
  | error failure => exact Or.inl ⟨failure, rfl, rfl⟩
  | ok endpoints =>
    refine Or.inr ⟨endpoints, rfl, ?_⟩
    cases hk : keySetStub endpoints.jwksUri harness.keys harness.config.keyId with
    | error failure =>
      simp only [hk]
      exact Or.inl ⟨failure, rfl, rfl⟩
    | ok stub =>
      simp only [hk, hm]
      exact Or.inr ⟨stub, _, rfl, rfl, (World.SameState.refl world).emit _ _ _⟩

/-- The mock server of a set-up after its start. -/
def startedMock (harness : Harness) (world : World) (port : ℕ) (thread : Thread) : MockServer :=
  (harness.newMock world).withThread port thread

/-- All that the steps of a set-up can come to: the web application fails, the mock server fails,
the keys cannot be published, or everything succeeds. -/
lemma startAll_cases (harness : Harness) (world : World) :
    (∃ directory failure host world', harness.asksForApp = true ∧
      newHost.start directory harness.config.applicationServerPort world =
        ⟨.error failure, host, world'⟩ ∧
      harness.startAll world = ⟨.error failure, harness, world'⟩) ∨
    ∃ appHost first, harness.AppStarted world appHost first ∧
      ((∃ failure, first.bind (harness.newMock first).server.host harness.config.mockServerPort =
          (.error failure, first) ∧
        harness.startAll world = ⟨.error failure, { harness with appHost := appHost }, first⟩) ∨
      ∃ port thread bound second,
        first.bind (harness.newMock first).server.host harness.config.mockServerPort =
          (.ok port, bound) ∧
        bound.SameState second ∧
        ((∃ failure endpoints, harness.startAll world = ⟨.error failure, { harness with
            appHost := appHost
            mockServer := some (harness.startedMock first port thread)
            endpoints := endpoints }, second⟩) ∨
        ∃ endpoints stub third,
          Endpoints.resolve harness.config.service (localUrl port) = .ok endpoints ∧
          keySetStub endpoints.jwksUri harness.keys harness.config.keyId = .ok stub ∧
          second.SameState third ∧
          harness.startAll world = ⟨.ok endpoints, { harness with
            appHost := appHost
            mockServer := some { harness.startedMock first port thread with stubs := [stub] }
            endpoints := some endpoints
            binding := some (harness.bindingTo endpoints) }, third⟩)) := by
  unfold startAll
  rcases startApp_cases harness world with ⟨directory, failure, host, world', hasks, hstart, hs⟩ |
    ⟨appHost, first, hstarted, hs⟩
  · exact Or.inl ⟨directory, failure, host, world', hasks, hstart, by rw [hs]⟩
  refine Or.inr ⟨appHost, first, hstarted, ?_⟩
  rw [hs]
  rcases startMock_cases { harness with appHost := appHost } first with
    ⟨failure, hbind, hm⟩ | ⟨port, thread, bound, second, hbind, hm, hsame⟩
  · exact Or.inl ⟨failure, hbind, by simp only [hm]⟩
  refine Or.inr ⟨port, thread, bound, second, hbind, hsame, ?_⟩
  simp only [hm]
  have howns : mockServer { harness with
      appHost := appHost, mockServer := some (harness.startedMock first port thread) } =
        some (harness.startedMock first port thread) := rfl
  rcases publish_cases howns (localUrl port) second with
    ⟨failure, -, hp⟩ | ⟨endpoints, hresolve, hrest⟩
  · exact Or.inl ⟨failure, harness.endpoints, hp⟩
  rcases hrest with ⟨failure, -, hp⟩ | ⟨stub, third, hstub, hp, hsame'⟩
  · exact Or.inl ⟨failure, some endpoints, hp⟩
  · exact Or.inr ⟨endpoints, stub, third, hresolve, hstub, hsame', hp⟩

lemma setup_cases (harness : Harness) (world : World) :
    (harness.phase ≠ .notStarted ∧
      harness.setup world = ⟨.error (.tooLate .setup harness.phase), harness, world⟩) ∨
    harness.phase = .notStarted ∧ ∃ begun, world.SameState begun ∧
      ((∃ endpoints after world' world'',
        { harness with phase := .starting }.startAll begun = ⟨.ok endpoints, after, world'⟩ ∧
        harness.setup world = ⟨.ok (), { after with phase := .running }, world''⟩ ∧
        world'.SameState world'') ∨
      (∃ failure after world' world'', failure.isOrdinary = true ∧
        { harness with phase := .starting }.startAll begun = ⟨.error failure, after, world'⟩ ∧
        harness.setup world = ⟨.error failure, { after with phase := .failed }, world''⟩ ∧
        world'.SameState world'') ∨
      ∃ failure after world', failure.isOrdinary = false ∧
        { harness with phase := .starting }.startAll begun = ⟨.error failure, after, world'⟩ ∧
        harness.setup world = ⟨.error failure, after, world'⟩) := by
  unfold setup requireNotStarted
  by_cases hp : harness.phase = .notStarted
  · rw [if_pos hp]
    set begun := world.emit .info "harness_setup_started"
      [("service", .string harness.config.service.name),
        ("mock_server_port", .int harness.config.mockServerPort),
        ("use_application_server", .bool harness.config.usesApplicationServer)] with hbegun
    refine Or.inr ⟨hp, begun, (World.SameState.refl world).emit _ _ _, ?_⟩
    rcases hs : { harness with phase := .starting }.startAll begun with
      ⟨failure | endpoints, after, world'⟩
    · cases ho : failure.isOrdinary with
      | true =>
        refine Or.inr (Or.inl ⟨failure, after, world', _, ho, hs, ?_,
          (World.SameState.refl world').emit .error "harness_setup_failed"
            [("service", .string harness.config.service.name),
              ("error", .string failure.message)]⟩)
        simp only [← hbegun, hs, ho, if_true]
      | false =>
        refine Or.inr (Or.inr ⟨failure, after, world', ho, hs, ?_⟩)
        simp only [← hbegun, hs, ho, Bool.false_eq_true, if_false]
    · refine Or.inl ⟨endpoints, after, world', _, hs, ?_,
        (World.SameState.refl world').emit .info "harness_setup_completed"
          [("jwks_url", .string endpoints.jwksUri), ("application_server_url",
            optionalJson { after with phase := .running }.applicationUrl)]⟩
      simp only [← hbegun, hs]
  · rw [if_neg hp]
    exact Or.inl ⟨hp, rfl⟩

/-- A set-up that succeeds leaves a harness that runs and owns what it needs: a mock server at whose
address the endpoints of its service are, with the key set published there and nothing else. -/
theorem setup_of_ok {harness : Harness} {world : World}
    (h : (harness.setup world).result = .ok ()) :
    harness.phase = .notStarted ∧ ∃ appHost port thread endpoints stub first begun,
      Endpoints.resolve harness.config.service (localUrl port) = .ok endpoints ∧
      keySetStub endpoints.jwksUri harness.keys harness.config.keyId = .ok stub ∧
      harness.AppStarted begun appHost first ∧
      (harness.setup world).self = { harness with
        phase := .running
        appHost := appHost
        mockServer := some { harness.startedMock first port thread with stubs := [stub] }
        endpoints := some endpoints
        binding := some (harness.bindingTo endpoints) } := by
  rcases setup_cases harness world with ⟨-, hs⟩ | ⟨hp, begun, -, hcases⟩
  · rw [hs] at h
    cases h
  rcases hcases with ⟨endpoints, after, world', world'', hall, hs, -⟩ |
    ⟨failure, after, world', world'', -, -, hs, -⟩ | ⟨failure, after, world', -, -, hs⟩
  · rcases startAll_cases { harness with phase := .starting } begun with
      ⟨_, _, _, _, -, -, hh⟩ | ⟨appHost, first, happ, hrest⟩
    · rw [hh] at hall
      cases hall
    rcases hrest with ⟨_, -, hh⟩ | ⟨port, thread, _, _, -, -, hrest⟩
    · rw [hh] at hall
      cases hall
    rcases hrest with ⟨_, _, hh⟩ | ⟨endpoints', stub, _, hresolve, hstub, -, hh⟩
    · rw [hh] at hall
      cases hall
    rw [hh] at hall
    injection hall with _ hafter
    refine ⟨hp, appHost, port, thread, endpoints', stub, first, begun, hresolve, hstub, happ, ?_⟩
    rw [hs, ← hafter]
    rfl
  · rw [hs] at h
    cases h
  · rw [hs] at h
    cases h

/-- What the steps leave where one of them fails: the settings, the phase and the binding are those
from before. -/
lemma startAll_error {harness after : Harness} {world world' : World} {failure : Failure}
    (h : harness.startAll world = ⟨.error failure, after, world'⟩) :
    ∃ appHost mockServer endpoints, after = { harness with
      appHost := appHost, mockServer := mockServer, endpoints := endpoints } := by
  rcases startAll_cases harness world with ⟨_, _, _, _, -, -, hh⟩ | ⟨appHost, first, -, hrest⟩
  · rw [hh] at h
    injection h with _ hafter
    exact ⟨_, _, _, hafter.symm⟩
  rcases hrest with ⟨_, -, hh⟩ | ⟨port, thread, _, _, -, -, ⟨_, _, hh⟩ | ⟨_, _, _, -, -, -, hh⟩⟩
  · rw [hh] at h
    injection h with _ hafter
    exact ⟨_, _, _, hafter.symm⟩
  · rw [hh] at h
    injection h with _ hafter
    exact ⟨_, _, _, hafter.symm⟩
  · rw [hh] at h
    cases h

end Harness

end MockIssuer
