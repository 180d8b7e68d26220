import MockIssuer.Proofs.Acts
import MockIssuer.Proofs.TearDown

/-!
# The life cycle of a harness

What holds of a harness in each phase, whatever was done to it and however its steps went. The
invariant `Consistent` is kept by every act in every world: only a running harness has a binding, a
running harness owns what its binding speaks of, and before the set-up and after a teardown nothing
is owned. The settings can be changed before the first set-up only, so what a set-up found stays.
-/
namespace MockIssuer

/-- A configuration that asks for a web application says where it is. -/
def Config.IsValid (config : Config) : Prop :=
  config.usesApplicationServer = true → config.webAppDirectory.isSome = true

lemma Config.isValid_of_ofFields {fields : Raw.Fields} {config : Config}
    (h : Config.ofFields fields = .ok config) : config.IsValid := by
  have hcheck {made : Config} (hc : check made = .ok config) : config.IsValid := by
    unfold check at hc
    split at hc
    · cases hc
    · next hno =>
      obtain rfl := Except.ok.inj hc
      intro hu
      by_contra hd
      exact hno (by simpa [hu] using hd)
  unfold ofFields at h
  simp only at h
  split at h
  · exact hcheck h
  · cases h

namespace Harness

lemma configure_ok {harness after : Harness} {operation : Operation} {changes : Raw.Fields}
    (h : harness.configure operation changes = .ok after) :
    harness.phase = .notStarted ∧
      ∃ config : Config, config.IsValid ∧ after = { harness with config := config } := by
  unfold configure requireNotStarted at h
  by_cases hp : harness.phase = .notStarted
  · rw [if_pos hp] at h
    simp only at h
    split at h
    · next config hchange =>
      exact ⟨hp, config, Config.isValid_of_ofFields hchange, (Except.ok.inj h).symm⟩
    · cases h
  · rw [if_neg hp] at h
    cases h

lemma setKeys_ok {harness after : Harness} {keys : Keys} (h : harness.setKeys keys = .ok after) :
    harness.phase = .notStarted ∧ after = { harness with keys := keys } := by
  unfold setKeys requireNotStarted at h
  by_cases hp : harness.phase = .notStarted
  · rw [if_pos hp] at h
    exact ⟨hp, (Except.ok.inj h).symm⟩
  · rw [if_neg hp] at h
    cases h

lemma useApplicationServer_ok {harness after : Harness} {directory port : Raw}
    (h : harness.useApplicationServer directory port = .ok after) :
    harness.phase = .notStarted ∧
      ∃ config : Config, config.IsValid ∧ after = { harness with config := config } := by
  unfold useApplicationServer at h
  split at h
  · cases h
  · exact configure_ok h

lemma set_ok {harness after : Harness} {setter : Setter} (h : harness.set setter = .ok after) :
    harness.phase = .notStarted ∧
      ((∃ config : Config, config.IsValid ∧ after = { harness with config := config }) ∨
      ∃ keys, after = { harness with keys := keys }) := by
  cases setter with
  | port port => exact (configure_ok h).imp_right Or.inl
  | clientId clientId => exact (configure_ok h).imp_right Or.inl
  | keyId keyId => exact (configure_ok h).imp_right Or.inl
  | keys keys => exact (setKeys_ok h).imp_right fun hkeys => Or.inr ⟨keys, hkeys⟩
  | applicationServer directory port => exact (useApplicationServer_ok h).imp_right Or.inl

/-- A harness whose endpoints and binding are those of the mock server that it owns. -/
def IsPublished (harness : Harness) : Prop :=
  ∃ mock url endpoints keys, harness.mockServer = some mock ∧ mock.baseUrl = .ok url ∧
    Endpoints.resolve harness.config.service url = .ok endpoints ∧
    harness.endpoints = some endpoints ∧ harness.keys = .pair keys ∧
    harness.binding = some ⟨optionalJson harness.config.clientId, .rsa keys.privateKey,
      .string endpoints.jwksUri, .string harness.config.keyId⟩

/-- What holds of a harness in each phase. -/
structure Consistent (harness : Harness) : Prop where
  config : harness.config.IsValid
  idle : harness.phase = .notStarted ∨ harness.phase = .stopped →
    harness.mockServer = none ∧ harness.appHost = none
  bound : harness.binding.isSome = true → harness.phase = .running
  published : harness.phase = .running → harness.IsPublished
  hosted : harness.phase = .running →
    (harness.appHost.isSome = true ↔ harness.config.usesApplicationServer = true)

namespace Consistent
variable {harness after : Harness}

lemma binding_eq_none (hc : harness.Consistent) (hp : harness.phase ≠ .running) :
    harness.binding = none := by
  cases hb : harness.binding with
  | none => rfl
  | some binding => exact absurd (hc.bound (by rw [hb]; rfl)) hp

lemma binding_isSome_iff (hc : harness.Consistent) :
    harness.binding.isSome = true ↔ harness.phase = .running := by
  constructor
  · exact hc.bound
  · intro hp
    obtain ⟨_, _, _, _, -, -, -, -, -, hb⟩ := hc.published hp
    rw [hb]
    rfl

lemma set (hc : harness.Consistent) {setter : Setter} (h : harness.set setter = .ok after) :
    after.Consistent := by
  obtain ⟨hp, ⟨config, hconfig, rfl⟩ | ⟨keys, rfl⟩⟩ := set_ok h
  · have hne : harness.phase ≠ .running := by rw [hp]; decide
    exact ⟨hconfig, hc.idle, hc.bound, fun hr => absurd hr hne, fun hr => absurd hr hne⟩
  · have hne : harness.phase ≠ .running := by rw [hp]; decide
    exact ⟨hc.config, hc.idle, hc.bound, fun hr => absurd hr hne, fun hr => absurd hr hne⟩

lemma of_unbound (hconfig : harness.config.IsValid) (hb : harness.binding = none)
    (hp : harness.phase = .starting ∨ harness.phase = .failed) : harness.Consistent := by
  have hne : harness.phase ≠ .running := by
    rcases hp with hp | hp <;> rw [hp] <;> decide
  refine ⟨hconfig, fun hi => ?_, fun h => ?_, fun hr => absurd hr hne, fun hr => absurd hr hne⟩
  · rcases hp with hp | hp <;> rcases hi with hi | hi <;> rw [hp] at hi <;> cases hi
  · rw [hb] at h
    cases h

lemma setup (hc : harness.Consistent) (world : World) : (harness.setup world).self.Consistent := by
  rcases setup_cases harness world with ⟨-, hs⟩ | ⟨hp, begun, -, hcases⟩
  · rw [hs]
    exact hc
  have hnone : harness.binding = none := hc.binding_eq_none (by rw [hp]; decide)
  rcases hcases with ⟨endpoints, _, _, _, -, hs, -⟩ | ⟨failure, _, _, _, -, hall, hs, -⟩ |
    ⟨failure, _, _, -, hall, hs⟩
  · have hok : (harness.setup world).result = .ok () := by rw [hs]
    obtain ⟨-, appHost, port, thread, endpoints, stub, first, begun, hresolve, hstub, happ,
      hself⟩ := setup_of_ok hok
    rw [hself]
    obtain ⟨keys, hkeys⟩ : ∃ keys, harness.keys = .pair keys := by
      cases hk : harness.keys with
      | pair keys => exact ⟨keys, rfl⟩
      | other value =>
        rw [hk] at hstub
        cases hstub
    refine ⟨hc.config, fun hi => ?_, fun _ => rfl, fun _ => ?_, fun _ => ?_⟩
    · rcases hi with hi | hi <;> cases hi
    · refine ⟨_, localUrl port, endpoints, keys, rfl, rfl, hresolve, rfl, hkeys, ?_⟩
      have hkey : signingKey harness.keys = .rsa keys.privateKey := by rw [hkeys]; rfl
      simp only [bindingTo, hkey]
    · rcases happ with ⟨hasks, rfl, -⟩ | ⟨_, _, _, hasks, -, rfl⟩
      · have hhost := (hc.idle (Or.inl hp)).2
        have hno : harness.config.usesApplicationServer = false := by
          by_contra hu
          have hu' : harness.config.usesApplicationServer = true := by simpa using hu
          simp [asksForApp, hu', hc.config hu'] at hasks
        simp [hhost, hno]
      · have hu : harness.config.usesApplicationServer = true := by
          simp only [asksForApp, Bool.and_eq_true] at hasks
          exact hasks.1
        simp [hu]
  · obtain ⟨_, _, _, rfl⟩ := startAll_error hall
    rw [hs]
    exact of_unbound hc.config hnone (Or.inr rfl)
  · obtain ⟨_, _, _, rfl⟩ := startAll_error hall
    rw [hs]
    exact of_unbound hc.config hnone (Or.inl rfl)

lemma of_released (hconfig : harness.config.IsValid) (hm : harness.mockServer = none)
    (hh : harness.appHost = none) (hb : harness.binding = none) (hp : harness.phase ≠ .running) :
    harness.Consistent := by
  refine ⟨hconfig, fun _ => ⟨hm, hh⟩, fun h => ?_, fun hr => absurd hr hp, fun hr => absurd hr hp⟩
  rw [hb] at h
  cases h

lemma teardown (hc : harness.Consistent) (world : World) :
    (harness.teardown world).self.Consistent := by
  rcases teardown_cases harness world with ⟨-, ht⟩ | ⟨hp, hm, hh, ht⟩ | ⟨-, -, ht⟩
  · rw [ht]
    exact hc
  · rw [ht]
    have hb : harness.binding = none := hc.binding_eq_none (by rw [hp]; decide)
    exact of_released hc.config hm hh hb Phase.noConfusion
  · rw [ht]
    rcases stopAll_self { harness with phase := .stopping } world with ⟨-, hs⟩ | ⟨-, hs⟩
    · rw [hs]
      exact of_released hc.config rfl rfl rfl Phase.noConfusion
    · rw [hs]
      exact of_released hc.config rfl rfl rfl Phase.noConfusion

lemma enter (hc : harness.Consistent) (world : World) : (harness.enter world).self.Consistent := by
  rcases enter_cases harness world with ⟨he, -⟩ | ⟨_, -, -, -, he, -⟩
  · rw [he]
    exact hc.setup world
  · rw [he]
    exact (hc.setup world).teardown _

end Consistent

end Harness

namespace MockServer

lemma baseUrl_eq_ok {mock : MockServer} {url : String} : mock.baseUrl = .ok url ↔
    ∃ running, mock.server.running = some running ∧ url = localUrl running.port := by
  unfold baseUrl port BackgroundServer.port
  cases hr : mock.server.running with
  | none =>
    constructor
    · intro h
      cases h
    · rintro ⟨_, hr, -⟩
      cases hr
  | some running =>
    constructor
    · intro h
      exact ⟨running, rfl, (Except.ok.inj h).symm⟩
    · rintro ⟨other, hother, rfl⟩
      obtain rfl : running = other := Option.some.inj hother
      rfl

lemma running_of_stop {mock : MockServer} {running : Running}
    (hr : mock.server.running = some running) (world : World) :
    ∃ left, (mock.stop world).self.server.running = some left ∧ left.port = running.port := by
  rcases mock.stop_cases world with ⟨failure, hs⟩ | ⟨timeout, world', hs, -⟩
  · rw [hs]
    exact ⟨running, hr, rfl⟩
  · rw [hs]
    unfold BackgroundServer.stopped
    rw [hr]
    exact ⟨_, rfl, rfl⟩

lemma Act.baseUrl_eq {mock after : MockServer} {world world' : World} {url : String}
    (h : Act mock world after world') (hu : mock.baseUrl = .ok url) : after.baseUrl = .ok url := by
  obtain ⟨running, hr, rfl⟩ := baseUrl_eq_ok.1 hu
  refine baseUrl_eq_ok.2 ?_
  cases h with
  | start =>
    have hsome : mock.server.running.isSome = true := by rw [hr]; rfl
    unfold MockServer.start BackgroundServer.start
    rw [if_pos hsome]
    exact ⟨running, hr, rfl⟩
  | stop =>
    obtain ⟨left, hleft, hport⟩ := running_of_stop hr world
    exact ⟨left, hleft, by rw [hport]⟩
  | drift _ other thread ho =>
    obtain rfl : running = other := Option.some.inj (hr.symm.trans ho)
    exact ⟨_, rfl, rfl⟩
  | use _ _ log hu =>
    rw [hu.cases_stubs.1]
    exact ⟨running, hr, rfl⟩

end MockServer

namespace Harness

/-- Every act keeps the invariant. -/
theorem Consistent.act {harness after : Harness} {world world' : World}
    (hc : harness.Consistent) (h : Act harness world after world') : after.Consistent := by
  cases h with
  | set _ setter _ hs => exact hc.set hs
  | setup => exact hc.setup world
  | teardown => exact hc.teardown world
  | enter => exact hc.enter world
  | createToken => exact hc
  | mock _ _ mock made hm ha =>
    refine ⟨hc.config, fun hi => ?_, hc.bound, fun hr => ?_, hc.hosted⟩
    · rw [(hc.idle hi).1] at hm
      cases hm
    · obtain ⟨other, url, endpoints, keys, ho, hu, hrest⟩ := hc.published hr
      obtain rfl : mock = other := Option.some.inj (hm.symm.trans ho)
      exact ⟨made, url, endpoints, keys, rfl, ha.baseUrl_eq hu, hrest⟩
  | app _ _ host made hh ha =>
    refine ⟨hc.config, fun hi => ?_, hc.bound, hc.published, fun hr => ?_⟩
    · rw [(hc.idle hi).2] at hh
      cases hh
    · have hown := hc.hosted hr
      rw [hh] at hown
      exact hown

lemma new_ok {service : Raw} {world : World} {harness : Harness}
    (h : (Harness.new service world).1 = .ok harness) : ∃ config keys,
    config.IsValid ∧ harness = { config := config, keys := .pair keys } := by
  unfold new at h
  cases hf : Config.forService service with
  | error violations =>
    rw [hf] at h
    cases h
  | ok config =>
    rw [hf] at h
    simp only at h
    cases hk : (world.generateKeys KeyPair.defaultSize).1 with
    | error failure =>
      rw [hk] at h
      cases h
    | ok keys =>
      rw [hk] at h
      exact ⟨config, keys, Config.isValid_of_ofFields hf, (Except.ok.inj h).symm⟩

lemma consistent_of_new {service : Raw} {world : World} {harness : Harness}
    (h : (Harness.new service world).1 = .ok harness) : harness.Consistent := by
  obtain ⟨config, keys, hconfig, rfl⟩ := new_ok h
  exact .of_released hconfig rfl rfl rfl Phase.noConfusion

lemma Consistent.steps {harness after : Harness} (hc : harness.Consistent)
    (h : Steps harness after) : after.Consistent := by
  induction h with
  | refl => exact hc
  | tail _ hstep ih =>
    obtain ⟨_, _, ha⟩ := hstep
    exact ih.act ha

/-- The invariant holds of every harness that there can be. -/
theorem Reachable.consistent {harness : Harness} (h : harness.Reachable) : harness.Consistent := by
  obtain ⟨_, _, _, hnew, hsteps⟩ := h
  exact (consistent_of_new hnew).steps hsteps

/-- What no act changes once the set-up has begun. -/
structure Continues (harness after : Harness) : Prop where
  begun : after.phase ≠ .notStarted
  config : after.config = harness.config
  keys : after.keys = harness.keys

namespace Continues
variable {harness after : Harness}

lemma refl (hp : harness.phase ≠ .notStarted) : harness.Continues harness := ⟨hp, rfl, rfl⟩

lemma trans {last : Harness} (h : harness.Continues after) (hh : after.Continues last) :
    harness.Continues last :=
  ⟨hh.begun, hh.config.trans h.config, hh.keys.trans h.keys⟩

lemma setup (harness : Harness) (world : World) :
    harness.Continues (harness.setup world).self := by
  rcases setup_cases harness world with ⟨hp, hs⟩ | ⟨-, begun, -, hcases⟩
  · rw [hs]
    exact refl hp
  rcases hcases with ⟨_, _, _, _, -, hs, -⟩ | ⟨_, _, _, _, -, hall, hs, -⟩ | ⟨_, _, _, -, hall, hs⟩
  · have hok : (harness.setup world).result = .ok () := by rw [hs]
    obtain ⟨-, _, _, _, _, _, _, _, -, -, -, hself⟩ := setup_of_ok hok
    rw [hself]
    exact ⟨Phase.noConfusion, rfl, rfl⟩
  · obtain ⟨_, _, _, rfl⟩ := startAll_error hall
    rw [hs]
    exact ⟨Phase.noConfusion, rfl, rfl⟩
  · obtain ⟨_, _, _, rfl⟩ := startAll_error hall
    rw [hs]
    exact ⟨Phase.noConfusion, rfl, rfl⟩

lemma teardown (hp : harness.phase ≠ .notStarted) (world : World) :
    harness.Continues (harness.teardown world).self := by
  rcases teardown_cases harness world with ⟨-, ht⟩ | ⟨-, -, -, ht⟩ | ⟨-, -, ht⟩
  · rw [ht]
    exact refl hp
  · rw [ht]
    exact ⟨Phase.noConfusion, rfl, rfl⟩
  · rw [ht]
    rcases stopAll_self { harness with phase := .stopping } world with ⟨-, hs⟩ | ⟨-, hs⟩
    · rw [hs]
      exact ⟨Phase.noConfusion, rfl, rfl⟩
    · rw [hs]
      exact ⟨Phase.noConfusion, rfl, rfl⟩

lemma enter (harness : Harness) (world : World) :
    harness.Continues (harness.enter world).self := by
  rcases enter_cases harness world with ⟨he, -⟩ | ⟨_, -, -, -, he, -⟩
  · rw [he]
    exact setup harness world
  · rw [he]
    exact (setup harness world).trans (teardown (setup harness world).begun _)

lemma act (hp : harness.phase ≠ .notStarted) {world world' : World}
    (h : Act harness world after world') : harness.Continues after := by
  cases h with
  | set _ setter _ hs => exact absurd (set_ok hs).1 hp
  | setup => exact setup harness world
  | teardown => exact teardown hp world
  | enter => exact enter harness world
  | createToken => exact refl hp
  | mock => exact ⟨hp, rfl, rfl⟩
  | app => exact ⟨hp, rfl, rfl⟩

lemma steps {last : Harness} (h : harness.Continues after) (hs : Steps after last) :
    harness.Continues last := by
  induction hs with
  | refl => exact h
  | tail _ hstep ih =>
    obtain ⟨_, _, ha⟩ := hstep
    exact ih.trans (act ih.begun ha)

end Continues

end Harness

namespace Token

lemma family_foreign (family message : String) :
    Failure.family (.foreign family [.string message]) = family := by
  change Failure.foreignFamily family [.string message] = family
  unfold Failure.foreignFamily
  split
  · next heq => cases (List.cons.inj heq).1
  · rfl

/-- A failure of the library that comes out as it is. -/
def IsPassedOn (failure : Failure) : Prop :=
  ∃ cause : LibraryFailure, isReported cause.family = false ∧
    failure = .foreign cause.family [.string cause.message]

/-- The library knows nothing of harnesses. -/
lemma IsPassedOn.family_ne {failure : Failure} (h : IsPassedOn failure) :
    failure.family ≠ "HarnessStateError" := by
  obtain ⟨cause, -, rfl⟩ := h
  intro hfamily
  rw [family_foreign] at hfamily
  have hoff := cause.isWithin_eq_false
  rw [hfamily] at hoff
  exact absurd hoff (by decide +kernel)

lemma algorithmOf_error {value : Json} {failure : Failure}
    (h : algorithmOf value = .error failure) :
    (∃ fault, failure = .signing fault) ∨ failure = .unknownAlgorithm := by
  unfold algorithmOf at h
  split at h
  · split at h
    · cases h
    · exact Or.inr (Except.error.inj h).symm
  · exact Or.inl ⟨_, (Except.error.inj h).symm⟩
  · exact Or.inl ⟨_, (Except.error.inj h).symm⟩
  · exact Or.inr (Except.error.inj h).symm

lemma toFailure_cases (cause : LibraryFailure) :
    (∃ fault, cause.toFailure = .signing fault) ∨ IsPassedOn cause.toFailure := by
  unfold LibraryFailure.toFailure
  cases hreported : isReported cause.family with
  | true => exact Or.inl ⟨_, rfl⟩
  | false => exact Or.inr ⟨cause, hreported, rfl⟩

lemma signWith_error {signer : Signer} {key : SigningKey} {value : Json} {input : List Char}
    {failure : Failure} (h : signWith signer key value input = .error failure) :
    (∃ fault, failure = .signing fault) ∨ failure = .unknownAlgorithm ∨ IsPassedOn failure := by
  unfold signWith at h
  split at h
  · next cause hknown =>
    obtain rfl := Except.error.inj h
    exact (algorithmOf_error hknown).imp_right Or.inl
  · next name algorithm hknown =>
    split at h
    · next text =>
      cases hsign : signer.signText text name (asciiBytes input) with
      | ok signature =>
        rw [hsign] at h
        cases h
      | error cause =>
        rw [hsign] at h
        obtain rfl := Except.error.inj h
        exact (toFailure_cases cause).imp_right Or.inr
    · exact Or.inl ⟨_, (Except.error.inj h).symm⟩
    · split at h
      · cases h
      · exact Or.inl ⟨_, (Except.error.inj h).symm⟩
    · exact Or.inl ⟨_, (Except.error.inj h).symm⟩
    · exact Or.inl ⟨_, (Except.error.inj h).symm⟩

lemma headerFor_error {headers : Json.Fields} {failure : Failure}
    (h : headerFor headers = .error failure) : ∃ fault, failure = .signing fault := by
  unfold headerFor at h
  split at h
  · exact ⟨_, (Except.error.inj h).symm⟩
  · split at h
    · unfold withCritical at h
      simp only at h
      split at h
      · cases h
      · split at h
        · cases h
        · cases h
      · exact ⟨_, (Except.error.inj h).symm⟩
    · cases h

/-- A token is not signed for a reason of the signature, or for want of the algorithm, or because the
library raises what is not reported. -/
lemma sign_error {signer : Signer} {key : SigningKey} {headers claims : Json.Fields}
    {failure : Failure} (h : sign signer key headers claims = .error failure) :
    (∃ fault, failure = .signing fault) ∨ failure = .unknownAlgorithm ∨ IsPassedOn failure := by
  unfold sign at h
  split at h
  · exact Or.inl ⟨_, (Except.error.inj h).symm⟩
  split at h
  · exact Or.inl ⟨_, (Except.error.inj h).symm⟩
  split at h
  · next cause hheader =>
    obtain rfl := Except.error.inj h
    exact Or.inl (headerFor_error hheader)
  split at h
  · exact Or.inl ⟨_, (Except.error.inj h).symm⟩
  simp only at h
  split at h
  · next cause hsigned =>
    obtain rfl := Except.error.inj h
    exact signWith_error hsigned
  · cases h

end Token

namespace TokenBuilder
variable {builder : TokenBuilder} {world : World} {failure : Failure}

lemma issue_error {claims : Json.Fields} (h : (builder.issue claims world).1 = .error failure) :
    (∃ fault, failure = .signing fault) ∨ failure = .unknownAlgorithm ∨
      Token.IsPassedOn failure ∨ ∃ fault, failure = .critical fault := by
  unfold issue at h
  split at h
  · exact Or.inl ⟨_, (Except.error.inj h).symm⟩
  · next cause hsign =>
    obtain rfl := Except.error.inj h
    rcases Token.sign_error hsign with hfault | halgorithm | hpassed
    · exact Or.inl hfault
    · exact Or.inr (Or.inl halgorithm)
    · exact Or.inr (Or.inr (Or.inl hpassed))
  · simp only at h
    split at h
    · exact Or.inr (Or.inr (Or.inr ⟨_, (Except.error.inj h).symm⟩))
    · cases h

lemma expiration_error {issuedAt : ℤ} (h : builder.expiration issuedAt = .error failure) :
    (∃ fault, failure = .outOfRange fault) ∨ ∃ fault, failure = .wrongType fault := by
  unfold expiration at h
  split at h
  · unfold addTtl at h
    split at h
    · cases h
    · cases h
    · unfold realOfInt at h
      simp only at h
      split at h
      · cases h
      · exact Or.inl ⟨_, (Except.error.inj h).symm⟩
    · exact Or.inr ⟨_, (Except.error.inj h).symm⟩
  · cases h

/-- Making a token fails for reasons of its own, never because of the phase of a harness. -/
lemma family_of_create (h : (builder.create world).1 = .error failure) :
    failure.family ≠ "HarnessStateError" := by
  unfold create at h
  split at h
  · obtain rfl := Except.error.inj h
    decide
  split at h
  · next cause hclock =>
    obtain rfl := Except.error.inj h
    unfold Clock.whole at hclock
    split at hclock
    · cases hclock
    · split at hclock
      · cases hclock
      · obtain rfl := Except.error.inj hclock
        decide
  split at h
  · next cause hexpiration =>
    obtain rfl := Except.error.inj h
    rcases expiration_error hexpiration with ⟨fault, rfl⟩ | ⟨fault, rfl⟩
    · simp [Failure.family]
    · simp [Failure.family]
  · rcases issue_error h with ⟨fault, rfl⟩ | rfl | hpassed | ⟨fault, rfl⟩
    · simp [Failure.family]
    · decide
    · exact hpassed.family_ne
    · simp [Failure.family]

end TokenBuilder

namespace Harness

/-- A harness with a binding can make a builder, unless the lifetime of tokens cannot be read. -/
lemma tokenBuilder_of_running {harness : Harness} {binding : Binding}
    (hp : harness.phase = .running) (hb : harness.binding = some binding) (world : World) :
    harness.tokenBuilder world =
      binding.createBuilder world.environment harness.config.service := by
  unfold tokenBuilder
  rw [hp, hb]

lemma tokenBuilder_of_ne {harness : Harness} (hp : harness.phase ≠ .running) (world : World) :
    harness.tokenBuilder world = .error (.noGenerator harness.phase) := by
  unfold tokenBuilder
  split
  · next hr _ => exact absurd hr hp
  · rfl

lemma family_of_createBuilder {binding : Binding} {environment : Environment} {service : Service}
    {failure : Failure} (h : binding.createBuilder environment service = .error failure) :
    failure.family ≠ "HarnessStateError" := by
  unfold Binding.createBuilder TokenBuilder.new Environment.readTokenTtl at h
  split at h
  · cases h
  · split at h
    · cases h
    · obtain rfl := Except.error.inj h
      simp [Failure.family]
    · obtain rfl := Except.error.inj h
      simp [Failure.family]

/-- Asking for a builder is refused for its phase exactly where the harness does not run. -/
lemma Consistent.tokenBuilder_refused_iff {harness : Harness} (hc : harness.Consistent)
    (world : World) : (∃ failure, harness.tokenBuilder world = .error failure ∧
      failure.family = "HarnessStateError") ↔ harness.phase ≠ .running := by
  constructor
  · rintro ⟨failure, he, hf⟩ hp
    obtain ⟨_, _, _, _, -, -, -, -, -, hb⟩ := hc.published hp
    rw [tokenBuilder_of_running hp hb] at he
    exact family_of_createBuilder he hf
  · intro hp
    exact ⟨_, tokenBuilder_of_ne hp world, by simp [Failure.family]⟩

/-- So is asking for a token. -/
lemma Consistent.createToken_refused_iff {harness : Harness} (hc : harness.Consistent)
    (world : World) : (∃ failure, (harness.createToken world).1 = .error failure ∧
      failure.family = "HarnessStateError") ↔ harness.phase ≠ .running := by
  constructor
  · rintro ⟨failure, he, hf⟩
    unfold createToken at he
    split at he
    · next cause hcause =>
      obtain rfl := Except.error.inj he
      exact (hc.tokenBuilder_refused_iff world).1 ⟨cause, hcause, hf⟩
    · next builder _ =>
      split at he
      · next cause world' hcause =>
        obtain rfl := Except.error.inj he
        exact absurd hf (TokenBuilder.family_of_create (congrArg Prod.fst hcause))
      · cases he
  · intro hp
    refine ⟨.noGenerator harness.phase, ?_, by simp [Failure.family]⟩
    rw [createToken, tokenBuilder_of_ne hp world]

lemma Continues.setup_eq {harness later : Harness} (h : harness.Continues later) (world : World) :
    later.setup world = ⟨.error (.tooLate .setup later.phase), later, world⟩ := by
  rcases setup_cases later world with ⟨-, hs⟩ | ⟨hp, -⟩
  · exact hs
  · exact absurd hp h.begun

/-- The life cycle of every harness that there can be. Only a running harness has a binding and
makes tokens; it owns a mock server at whose address its endpoints are, and its binding speaks of
them; a harness that is idle owns nothing; and once a set-up has begun, there is no other, and the
settings stay. -/
theorem reachable_lifecycle {harness : Harness} (h : harness.Reachable) :
    (harness.binding.isSome = true ↔ harness.phase = .running) ∧
    (∀ world,
      ((∃ failure, harness.tokenBuilder world = .error failure ∧
        failure.family = "HarnessStateError") ↔ harness.phase ≠ .running) ∧
      ((∃ failure, (harness.createToken world).1 = .error failure ∧
        failure.family = "HarnessStateError") ↔ harness.phase ≠ .running)) ∧
    (harness.phase = .running → harness.IsPublished ∧
      (harness.appHost.isSome = true ↔ harness.config.usesApplicationServer = true)) ∧
    (harness.phase = .notStarted ∨ harness.phase = .stopped →
      harness.mockServer = none ∧ harness.appHost = none) ∧
    (harness.phase = .notStarted → ∀ world begun, begun = (harness.setup world).self ∨
      begun = (harness.enter world).self → ∀ later, Steps begun later →
        later.phase ≠ .notStarted ∧ later.config = harness.config ∧ later.keys = harness.keys ∧
        ∀ world', later.setup world' = ⟨.error (.tooLate .setup later.phase), later, world'⟩) := by
  have hc := h.consistent
  refine ⟨hc.binding_isSome_iff, fun world => ?_, fun hr => ⟨hc.published hr, hc.hosted hr⟩,
    hc.idle, fun _ world begun hbegun later hsteps => ?_⟩
  · exact ⟨hc.tokenBuilder_refused_iff world, hc.createToken_refused_iff world⟩
  · have hcontinues : harness.Continues later := by
      rcases hbegun with rfl | rfl
      · exact (Continues.setup harness world).steps hsteps
      · exact (Continues.enter harness world).steps hsteps
    exact ⟨hcontinues.begun, hcontinues.config, hcontinues.keys, hcontinues.setup_eq⟩

/-- A new harness with the default settings and a small key pair. -/
def fresh : Harness where
  config := ⟨.xsuaa, 0, false, none, 44195, some "sb-clientId!20", "default-kid"⟩
  keys := .pair ⟨⟨3233, 17, 2753, 61, 53, 53, 49, 38⟩⟩

lemma new_fresh : (Harness.new (.service .xsuaa)
    { keyPool := [⟨⟨3233, 17, 2753, 61, 53, 53, 49, 38⟩⟩] }).1 = .ok fresh := by
  rfl

/-- The new harness is published once it has been set up in an empty world. -/
theorem fresh_isPublished : (fresh.setup {}).self.phase = .running ∧
    (fresh.setup {}).self.IsPublished ∧ (fresh.setup {}).self.appHost = none := by
  have hsteps : Steps fresh (fresh.setup {}).self := .single ⟨_, _, .setup fresh {}⟩
  have hp : (fresh.setup {}).self.phase = .running := by rfl
  obtain ⟨-, -, hrunning, -⟩ := reachable_lifecycle ⟨_, _, fresh, new_fresh, hsteps⟩
  obtain ⟨hpublished, hhosted⟩ := hrunning hp
  refine ⟨hp, hpublished, ?_⟩
  rw [← Option.not_isSome_iff_eq_none, hhosted]
  decide

end Harness

end MockIssuer
