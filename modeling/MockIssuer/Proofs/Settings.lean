import MockIssuer.Proofs.HarnessLifecycle

/-!
# Settings do not interfere

A setter writes the whole configuration back as fields, puts its own over them and makes a new
configuration from all of them. What comes of it is told by the values of the call alone: either
they are refused and nothing changes, or each setting that the call names gets its value and the
others stay (`set_eq`). For this the other fields must be read back as they were written, which
holds of a configuration whose values are in range, and every configuration that setters lead to is
one. So each setting has the value of the last call that was accepted for it, and calls that name
different settings can change places (`settings_independent`).
-/
namespace MockIssuer

namespace Raw

/-- A field that was put over others is taken as it is given; any other is read as before. -/
lemma field_overlaid {α : Type} {fields : Fields} {name : String}
    {coerce : Raw → Except Problem α} {default : Option α} {result : Except Problem α}
    (h : field fields name coerce default = result) (changes : Fields) :
    field (changes.foldl (fun fields (name, value) => Json.upsert name value fields) fields) name
      coerce default = ((changes.reverse.lookup name).map coerce).getD result := by
  rw [← h]
  unfold field
  rw [Json.lookup_foldl_upsert]
  cases changes.reverse.lookup name <;> rfl

lemma integerWithin_int {lo hi n : ℤ} (hlo : lo ≤ n) (hhi : n ≤ hi) :
    integerWithin lo hi (.json (.int n)) = .ok n := by
  simp [integerWithin, integer, not_lt.2 hlo, not_lt.2 hhi]

lemma integerWithin_ok {lo hi n : ℤ} {value : Raw} (h : integerWithin lo hi value = .ok n) :
    lo ≤ n ∧ n ≤ hi := by
  unfold integerWithin at h
  split at h
  · cases h
  · split_ifs at h with hlo hhi
    obtain rfl := Except.ok.inj h
    exact ⟨not_lt.1 hlo, not_lt.1 hhi⟩

lemma nonemptyString_string {text : String} (h : text ≠ "") :
    nonemptyString (.json (.string text)) = .ok text := by
  simp [nonemptyString, string, h]

lemma nonemptyString_ok {text : String} {value : Raw} (h : nonemptyString value = .ok text) :
    text ≠ "" := by
  unfold nonemptyString at h
  split at h
  · split_ifs at h with hempty
    obtain rfl := Except.ok.inj h
    simpa using hempty
  · cases h

end Raw

namespace Config

/-- What a setter can change about a configuration. -/
inductive Setting where
  | mockServerPort
  | usesApplicationServer
  | webAppDirectory
  | applicationServerPort
  | clientId
  | keyId
  deriving DecidableEq

namespace Setting

/-- All settings, in the order of the fields. -/
def all : List Setting :=
  [mockServerPort, usesApplicationServer, webAppDirectory, applicationServerPort, clientId, keyId]

lemma mem_all (setting : Setting) : setting ∈ all := by
  cases setting <;> decide

/-- The name of the field that holds a setting. -/
def name : Setting → String
  | mockServerPort => "mock_server_port"
  | usesApplicationServer => "use_application_server"
  | webAppDirectory => "webapp_dir"
  | applicationServerPort => "application_server_port"
  | clientId => "client_id"
  | keyId => "key_id"

/-- The values of a setting. -/
abbrev Value : Setting → Type
  | mockServerPort | applicationServerPort => ℤ
  | usesApplicationServer => Bool
  | webAppDirectory => Option Path
  | clientId => Option String
  | keyId => String

/-- The value that a setting is given by a value of any type. -/
def coerce : (setting : Setting) → Raw → Except Problem setting.Value
  | mockServerPort => Raw.integerWithin 0 65535
  | usesApplicationServer => Raw.boolean
  | webAppDirectory => Raw.optional Raw.toPath
  | applicationServerPort => Raw.integerWithin 1 65535
  | clientId => Raw.optional Raw.string
  | keyId => Raw.nonemptyString

/-- The value of a setting that was never changed. -/
def default : (setting : Setting) → setting.Value
  | mockServerPort => (0 : ℤ)
  | usesApplicationServer => false
  | webAppDirectory => (none : Option Path)
  | applicationServerPort => defaultApplicationServerPort
  | clientId => some defaultClientId
  | keyId => defaultKeyId

/-- The values that a setting may have. -/
def InRange : (setting : Setting) → setting.Value → Prop
  | mockServerPort, port => 0 ≤ port ∧ port ≤ 65535
  | applicationServerPort, port => 1 ≤ port ∧ port ≤ 65535
  | keyId, text => text ≠ ""
  | _, _ => True

lemma inRange_of_coerce {setting : Setting} {raw : Raw} {value : setting.Value}
    (h : setting.coerce raw = .ok value) : setting.InRange value := by
  cases setting with
  | mockServerPort => exact Raw.integerWithin_ok h
  | applicationServerPort => exact Raw.integerWithin_ok h
  | keyId => exact Raw.nonemptyString_ok h
  | usesApplicationServer => trivial
  | webAppDirectory => trivial
  | clientId => trivial

/-- The value of a setting in some fields. -/
def read (setting : Setting) (fields : Raw.Fields) : Except Problem setting.Value :=
  Raw.field fields setting.name setting.coerce (some setting.default)

end Setting

/-- The value of a setting. -/
def get (config : Config) : (setting : Setting) → setting.Value
  | .mockServerPort => config.mockServerPort
  | .usesApplicationServer => config.usesApplicationServer
  | .webAppDirectory => config.webAppDirectory
  | .applicationServerPort => config.applicationServerPort
  | .clientId => config.clientId
  | .keyId => config.keyId

/-- The configuration for a service with given settings. -/
def ofSettings (service : Service) (value : (setting : Setting) → setting.Value) : Config where
  service := service
  mockServerPort := value .mockServerPort
  usesApplicationServer := value .usesApplicationServer
  webAppDirectory := value .webAppDirectory
  applicationServerPort := value .applicationServerPort
  clientId := value .clientId
  keyId := value .keyId

lemma ofSettings_get (config : Config) : ofSettings config.service config.get = config := rfl

@[simp] lemma get_ofSettings (service : Service) (value : (setting : Setting) → setting.Value)
    (setting : Setting) : (ofSettings service value).get setting = value setting := by
  cases setting <;> rfl

lemma ext_get {config other : Config} (hs : config.service = other.service)
    (h : ∀ setting, config.get setting = other.get setting) : config = other := by
  rw [← ofSettings_get config, ← ofSettings_get other, hs, funext h]

/-- A configuration whose values are in range, and that says where a web application is if it asks
for one. -/
structure IsSound (config : Config) : Prop where
  inRange : ∀ setting : Setting, setting.InRange (config.get setting)
  isValid : config.IsValid

section Reading
variable {config : Config} {fields : Raw.Fields} {service : Service}

lemma check_eq (h : config.IsValid) : check config = .ok config := by
  unfold check
  split_ifs with hno
  · simp only [Bool.and_eq_true, Option.isNone_iff_eq_none] at hno
    have hsome := h hno.1
    rw [hno.2] at hsome
    cases hsome
  · rfl

lemma ofFields_of_read (hservice : Raw.field fields "service" Raw.toService none = .ok service)
    {value : (setting : Setting) → setting.Value}
    (h : ∀ setting : Setting, setting.read fields = .ok (value setting)) :
    ofFields fields = check (ofSettings service value) := by
  have h₁ : Raw.field fields "mock_server_port" (Raw.integerWithin 0 65535) (some 0) = _ :=
    h .mockServerPort
  have h₂ : Raw.field fields "use_application_server" Raw.boolean (some false) = _ :=
    h .usesApplicationServer
  have h₃ : Raw.field fields "webapp_dir" (Raw.optional Raw.toPath) (some none) = _ :=
    h .webAppDirectory
  have h₄ : Raw.field fields "application_server_port" (Raw.integerWithin 1 65535)
    (some defaultApplicationServerPort) = _ := h .applicationServerPort
  have h₅ : Raw.field fields "client_id" (Raw.optional Raw.string)
    (some (some defaultClientId)) = _ := h .clientId
  have h₆ : Raw.field fields "key_id" Raw.nonemptyString (some defaultKeyId) = _ := h .keyId
  unfold ofFields
  rw [hservice, h₁, h₂, h₃, h₄, h₅, h₆]
  rfl

lemma ofFields_of_problem
    (hservice : Raw.field fields "service" Raw.toService none = .ok service) {setting : Setting}
    {problem : Problem} (h : setting.read fields = .error problem) : ofFields fields =
      .error (Setting.all.filterMap fun setting =>
        Raw.violation? setting.name (setting.read fields)) := by
  unfold ofFields
  simp only [hservice]
  split
  · next _ h₁ h₂ h₃ h₄ h₅ h₆ =>
    cases setting with
    | mockServerPort => cases h₁.symm.trans h
    | usesApplicationServer => cases h₂.symm.trans h
    | webAppDirectory => cases h₃.symm.trans h
    | applicationServerPort => cases h₄.symm.trans h
    | clientId => cases h₅.symm.trans h
    | keyId => cases h₆.symm.trans h
  · rfl

lemma read_toFields (h : config.IsSound) (setting : Setting) :
    setting.read config.toFields = .ok (config.get setting) := by
  cases setting with
  | mockServerPort =>
    obtain ⟨hlo, hhi⟩ := h.inRange .mockServerPort
    exact Raw.integerWithin_int hlo hhi
  | usesApplicationServer => rfl
  | webAppDirectory =>
    change Raw.optional Raw.toPath _ = _
    unfold get
    cases config.webAppDirectory <;> rfl
  | applicationServerPort =>
    obtain ⟨hlo, hhi⟩ := h.inRange .applicationServerPort
    exact Raw.integerWithin_int hlo hhi
  | clientId =>
    change Raw.optional Raw.string _ = _
    unfold get
    cases config.clientId <;> rfl
  | keyId => exact Raw.nonemptyString_string (h.inRange .keyId)

end Reading

/-- Values of any type that are given to some of the settings. -/
abbrev Given := Setting → Option Raw

namespace Given
variable {given : Given} {setting : Setting}

/-- The value that a setting gets, unless it gets none or what is given for it is refused. -/
def value? (given : Given) (setting : Setting) : Option setting.Value :=
  (given setting).bind fun raw => (setting.coerce raw).toOption

/-- What is wrong with the given values, in the order of the fields. -/
def violations (given : Given) : List Violation :=
  Setting.all.filterMap fun setting =>
    (given setting).bind fun raw => Raw.violation? setting.name (setting.coerce raw)

/-- Where nothing is wrong, each value that is given is one for its setting. -/
lemma coerce_eq (h : given.violations = []) {raw : Raw} (hg : given setting = some raw) :
    ∃ value, setting.coerce raw = .ok value ∧ given.value? setting = some value := by
  cases hc : setting.coerce raw with
  | ok value => exact ⟨value, rfl, by simp [value?, hg, hc, Except.toOption]⟩
  | error problem =>
    have hnone := List.filterMap_eq_nil_iff.1 h setting setting.mem_all
    rw [hg, Option.bind_some, hc] at hnone
    cases hnone

lemma exists_of_violations (h : given.violations ≠ []) :
    ∃ setting raw problem, given setting = some raw ∧ setting.coerce raw = .error problem := by
  obtain ⟨violation, hmem⟩ := List.exists_mem_of_ne_nil _ h
  obtain ⟨setting, -, hviolation⟩ := List.mem_filterMap.1 hmem
  obtain ⟨raw, hg, hraw⟩ := Option.bind_eq_some_iff.1 hviolation
  cases hc : setting.coerce raw with
  | ok value =>
    rw [hc] at hraw
    cases hraw
  | error problem => exact ⟨setting, raw, problem, hg, hc⟩

end Given

/-- A change of a sound configuration depends on the given values alone: they are refused, or each
setting gets the value that is given to it and the others keep theirs. -/
theorem change_eq {config : Config} (h : config.IsSound) {changes : Raw.Fields} {given : Given}
    (hservice : changes.reverse.lookup "service" = none)
    (hgiven : ∀ setting : Setting, (changes.reverse.lookup setting.name).map setting.coerce =
      (given setting).map setting.coerce) :
    config.change changes = if given.violations = [] then
      check (ofSettings config.service fun setting =>
        (given.value? setting).getD (config.get setting)) else .error given.violations := by
  set fields := changes.foldl (fun fields (name, value) => Json.upsert name value fields)
    config.toFields with hfields
  have hsame : Raw.field fields "service" Raw.toService none = .ok config.service := by
    have hold : Raw.field config.toFields "service" Raw.toService none = .ok config.service := rfl
    rw [hfields, Raw.field_overlaid hold, hservice]
    rfl
  have hread (setting : Setting) : setting.read fields =
      ((given setting).map setting.coerce).getD (.ok (config.get setting)) := by
    rw [← hgiven]
    exact Raw.field_overlaid (read_toFields h setting) changes
  have hchange : config.change changes = ofFields fields := rfl
  rw [hchange]
  split_ifs with hnone
  · refine ofFields_of_read hsame fun setting => ?_
    rw [hread]
    cases hg : given setting with
    | none => simp [Given.value?, hg]
    | some raw =>
      obtain ⟨value, hc, hv⟩ := Given.coerce_eq hnone hg
      simp [hc, hv]
  · obtain ⟨setting, raw, problem, hg, hc⟩ := Given.exists_of_violations hnone
    have hproblem : setting.read fields = .error problem := by
      rw [hread, hg, Option.map_some, Option.getD_some, hc]
    rw [ofFields_of_problem hsame hproblem]
    refine congrArg Except.error (List.filterMap_congr fun setting _ => ?_)
    rw [hread]
    cases given setting <;> rfl

lemma forService_ok {service : Raw} {config : Config} (h : forService service = .ok config) :
    config = ofSettings config.service Setting.default := by
  have hread (setting : Setting) :
      setting.read [("service", service)] = .ok setting.default := by
    cases setting <;> rfl
  cases hservice : service.toService with
  | ok value =>
    have hfield : Raw.field [("service", service)] "service" Raw.toService none = .ok value :=
      hservice
    rw [forService, ofFields_of_read hfield hread] at h
    exact (Except.ok.inj h) ▸ rfl
  | error problem =>
    have hfield : Raw.field [("service", service)] "service" Raw.toService none = .error problem :=
      hservice
    unfold forService ofFields at h
    simp only [hfield] at h
    cases h

/-- A sound configuration that is written back as fields is made from them again. -/
theorem ofFields_toFields {config : Config} (h : config.IsSound) :
    ofFields config.toFields = .ok config := by
  have hservice : Raw.field config.toFields "service" Raw.toService none = .ok config.service := rfl
  rw [ofFields_of_read hservice (read_toFields h), ofSettings_get, check_eq h.isValid]

end Config

namespace Harness
open Config (Setting Given)

namespace Setter

/-- The operation that a call is one of. -/
def operation : Setter → Operation
  | .port _ => .setPort
  | .clientId _ => .setClientId
  | .keyId _ => .setKeyId
  | .keys _ => .setKeys
  | .applicationServer .. => .useApplicationServer

/-- The value that a call gives to a setting, if it names it. A directory is given as a path. -/
def given : Setter → Given
  | .port value, .mockServerPort | .clientId value, .clientId | .keyId value, .keyId
  | .applicationServer _ value, .applicationServerPort => some value
  | .applicationServer value _, .webAppDirectory =>
    match value.pathOf with
    | .ok path => some (.path path)
    | .error _ => some value
  | .applicationServer .., .usesApplicationServer => some (.json (.bool true))
  | _, _ => none

/-- The type of what is given for a directory and is no path. -/
def strayType? : Setter → Option String
  | .applicationServer directory _ =>
    match directory.pathOf with
    | .ok _ => none
    | .error _ => some directory.typeWord
  | _ => none

/-- Why the values of a call are refused, if they are. What is no path is refused first. -/
def refusal? (setter : Setter) : Option Failure :=
  match setter.strayType?, setter.given.violations with
  | some type, _ => some (.wrongType (.notAPath type))
  | none, [] => none
  | none, violations => some (.invalidSetting setter.operation violations)

/-- The value that a setting gets from a call that is not refused. -/
def accepted? (setter : Setter) (setting : Setting) : Option setting.Value :=
  if setter.refusal?.isNone then setter.given.value? setting else none

/-- The keys that a call gives. -/
def keys? : Setter → Option Keys
  | .keys value => some value
  | _ => none

end Setter

/-- The harness with the values of a call. -/
def withValues (harness : Harness) (setter : Setter) : Harness :=
  { harness with
    config := .ofSettings harness.config.service fun setting =>
      (setter.given.value? setting).getD (harness.config.get setting)
    keys := setter.keys?.getD harness.keys }

/-- The harness after a call; one that is refused leaves it as it was. -/
def afterCall (harness : Harness) (setter : Setter) : Harness :=
  match harness.set setter with
  | .ok after => after
  | .error _ => harness

/-- The harness after some calls. -/
def setAll (harness : Harness) (setters : List Setter) : Harness :=
  setters.foldl afterCall harness

/-- What each of some calls answers, apart from the harness itself. -/
def answers (harness : Harness) : List Setter → List (Except Failure Unit)
  | [] => []
  | setter :: rest =>
    ((harness.set setter).map fun _ => ()) :: (harness.afterCall setter).answers rest

section Calls
variable {harness : Harness} {setter : Setter}

/-- Nothing is wrong with the values of a call that is not refused, and its directory is a path. -/
lemma Setter.refusal?_eq_none_iff : setter.refusal? = none ↔
    setter.strayType? = none ∧ setter.given.violations = [] := by
  unfold refusal?
  cases setter.strayType? with
  | some type => simp
  | none => cases setter.given.violations <;> simp

lemma pathOf_of_strayType? {directory port : Raw}
    (h : (Setter.applicationServer directory port).strayType? = none) :
    ∃ path, directory.pathOf = .ok path := by
  unfold Setter.strayType? at h
  cases hpath : directory.pathOf with
  | ok path => exact ⟨path, rfl⟩
  | error problem => simp [hpath] at h

lemma withValues_isSound (hs : harness.config.IsSound) (hr : setter.refusal? = none) :
    (harness.withValues setter).config.IsSound := by
  obtain ⟨hpath, hnone⟩ := Setter.refusal?_eq_none_iff.1 hr
  refine ⟨fun setting => ?_, fun huses => ?_⟩
  · rw [withValues, Config.get_ofSettings]
    cases hg : setter.given setting with
    | none =>
      rw [Given.value?, hg]
      exact hs.inRange setting
    | some raw =>
      obtain ⟨value, hc, hv⟩ := Given.coerce_eq hnone hg
      rw [hv]
      exact Setting.inRange_of_coerce hc
  · cases setter with
    | applicationServer directory port =>
      obtain ⟨path, hpath⟩ := pathOf_of_strayType? hpath
      have hgiven : (Setter.applicationServer directory port).given.value? .webAppDirectory =
          some (some path) := by
        simp only [Given.value?, Setter.given, hpath]
        rfl
      change ((Given.value? _ .webAppDirectory).getD _).isSome = true
      rw [hgiven]
      rfl
    | port value => exact hs.isValid huses
    | clientId value => exact hs.isValid huses
    | keyId value => exact hs.isValid huses
    | keys value => exact hs.isValid huses

lemma configure_eq (hp : harness.phase = .notStarted) (hs : harness.config.IsSound)
    (setter : Setter) (hpath : setter.strayType? = none) (hkeys : setter.keys? = none)
    {changes : Raw.Fields} (hservice : changes.reverse.lookup "service" = none)
    (hgiven : ∀ setting : Setting, (changes.reverse.lookup setting.name).map setting.coerce =
      (setter.given setting).map setting.coerce) :
    harness.configure setter.operation changes = match setter.refusal? with
      | none => .ok (harness.withValues setter)
      | some failure => .error failure := by
  unfold configure requireNotStarted
  rw [if_pos hp]
  simp only [Config.change_eq hs hservice hgiven]
  cases hv : setter.given.violations with
  | nil =>
    have hr : setter.refusal? = none := Setter.refusal?_eq_none_iff.2 ⟨hpath, hv⟩
    have hcheck := Config.check_eq (withValues_isSound hs hr).isValid
    unfold withValues at hcheck ⊢
    simp only [if_true, hcheck, hr, hkeys, Option.getD_none]
  | cons violation rest =>
    have hr : setter.refusal? = some (.invalidSetting setter.operation (violation :: rest)) := by
      simp [Setter.refusal?, hpath, hv]
    simp only [hr, reduceCtorEq, if_false]

/-- What comes of a call is told by its values. -/
theorem set_eq (hp : harness.phase = .notStarted) (hs : harness.config.IsSound) (setter : Setter) :
    harness.set setter = match setter.refusal? with
      | none => .ok (harness.withValues setter)
      | some failure => .error failure := by
  cases setter with
  | port value =>
    exact configure_eq hp hs (.port value) rfl rfl rfl fun setting => by cases setting <;> rfl
  | clientId value =>
    exact configure_eq hp hs (.clientId value) rfl rfl rfl fun setting => by cases setting <;> rfl
  | keyId value =>
    exact configure_eq hp hs (.keyId value) rfl rfl rfl fun setting => by cases setting <;> rfl
  | keys value =>
    have hself : harness.set (.keys value) = .ok { harness with keys := value } := by
      simp [set, setKeys, requireNotStarted, hp, Except.map]
    rw [hself]
    rfl
  | applicationServer directory port =>
    change harness.useApplicationServer directory port = _
    unfold useApplicationServer
    cases hpath : directory.pathOf with
    | error problem => simp [Setter.refusal?, Setter.strayType?, hpath]
    | ok path =>
      refine configure_eq hp hs (.applicationServer directory port) ?_ rfl rfl fun setting => ?_
      · simp [Setter.strayType?, hpath]
      · cases setting with
        | webAppDirectory =>
          simp only [Setter.given, hpath]
          rfl
        | mockServerPort => rfl
        | usesApplicationServer => rfl
        | applicationServerPort => rfl
        | clientId => rfl
        | keyId => rfl

lemma afterCall_eq (hp : harness.phase = .notStarted) (hs : harness.config.IsSound)
    (call : Setter) :
    (harness.afterCall call).phase = .notStarted ∧ (harness.afterCall call).config.IsSound ∧
    (harness.afterCall call).config.service = harness.config.service ∧
    ∀ setting : Setting, (harness.afterCall call).config.get setting =
      (call.accepted? setting).getD (harness.config.get setting) := by
  unfold afterCall Setter.accepted?
  rw [set_eq hp hs call]
  cases hr : call.refusal? with
  | some failure => exact ⟨hp, hs, rfl, fun _ => rfl⟩
  | none => exact ⟨hp, withValues_isSound hs hr, rfl, fun _ => Config.get_ofSettings _ _ _⟩

/-- The harness after some calls, by their values: the last one that is accepted for a setting
counts. -/
theorem setAll_eq (hp : harness.phase = .notStarted) (hs : harness.config.IsSound)
    (calls : List Setter) :
    (harness.setAll calls).phase = .notStarted ∧ (harness.setAll calls).config.IsSound ∧
    (harness.setAll calls).config.service = harness.config.service ∧
    ∀ setting : Setting, (harness.setAll calls).config.get setting =
      (calls.reverse.findSome? (·.accepted? setting)).getD (harness.config.get setting) := by
  induction calls generalizing harness with
  | nil => exact ⟨hp, hs, rfl, fun _ => rfl⟩
  | cons call rest ih =>
    obtain ⟨hphase, hsound, hservice, hget⟩ := afterCall_eq hp hs call
    obtain ⟨hphase', hsound', hservice', hget'⟩ := ih hphase hsound
    refine ⟨hphase', hsound', hservice'.trans hservice, fun setting => ?_⟩
    refine (hget' setting).trans ?_
    rw [hget, List.reverse_cons, List.findSome?_append, List.findSome?_singleton]
    cases rest.reverse.findSome? (·.accepted? setting) <;> rfl

lemma answers_eq (hp : harness.phase = .notStarted) (hs : harness.config.IsSound)
    (calls : List Setter) :
    harness.answers calls = calls.map fun call => BackgroundServer.answer call.refusal? := by
  induction calls generalizing harness with
  | nil => rfl
  | cons call rest ih =>
    obtain ⟨hphase, hsound, -, -⟩ := afterCall_eq hp hs call
    rw [answers, ih hphase hsound, List.map_cons, set_eq hp hs]
    cases call.refusal? <;> rfl

end Calls

lemma config_of_new {service : Raw} {world : World} {first : Harness}
    (h : (Harness.new service world).1 = .ok first) : first.phase = .notStarted ∧
      first.config = .ofSettings first.config.service Setting.default := by
  unfold new at h
  split at h
  · cases h
  · next config hconfig =>
    cases hkeys : (world.generateKeys KeyPair.defaultSize).1 with
    | error failure =>
      simp only [hkeys] at h
      cases h
    | ok keys =>
      simp only [hkeys] at h
      obtain rfl := Except.ok.inj h
      exact ⟨rfl, Config.forService_ok hconfig⟩

lemma isSound_default (service : Service) :
    (Config.ofSettings service Setting.default).IsSound := by
  refine ⟨fun setting => ?_, fun huses => by cases huses⟩
  rw [Config.get_ofSettings]
  cases setting with
  | mockServerPort => exact ⟨by decide, by decide⟩
  | applicationServerPort => exact ⟨by decide, by decide⟩
  | keyId => exact (by decide : Config.defaultKeyId ≠ "")
  | usesApplicationServer => trivial
  | webAppDirectory => trivial
  | clientId => trivial

/-- Neighbours of which one finds nothing can change places. -/
lemma findSome?_swap {α β : Type} (f : α → Option β) {one other : α}
    (h : f one = none ∨ f other = none) (front back : List α) :
    (front ++ one :: other :: back).findSome? f = (front ++ other :: one :: back).findSome? f := by
  simp only [List.findSome?_append, List.findSome?_cons]
  rcases h with h | h
  · rw [h]
  · rw [h]

lemma Setter.family_of_refusal? {setter : Setter} {failure : Failure}
    (h : setter.refusal? = some failure) : failure.family =
      if setter.strayType?.isSome then "TypeError" else "ConfigurationError" := by
  unfold refusal? at h
  cases hstray : setter.strayType? with
  | some type =>
    simp only [hstray, Option.some.injEq] at h
    subst h
    rfl
  | none =>
    cases hv : setter.given.violations with
    | nil => simp [hstray, hv] at h
    | cons violation rest =>
      simp only [hstray, hv, Option.some.injEq] at h
      subst h
      rfl

lemma Setter.accepted?_eq_none {setter : Setter} {setting : Setting}
    (h : setter.given setting = none) : setter.accepted? setting = none := by
  simp [Setter.accepted?, Given.value?, h]

/-- Any calls of setters on a new harness. Each setting has the value of the last call that was
accepted for it, or its default; the configuration is sound, and made again from its own fields.
Whether the next call is accepted is told by its values alone: one that is refused is an invalid
setting, or its directory is no path, and leaves all settings. Calls that name no setting in common
can change places. -/
theorem settings_independent {service : Raw} {world : World} {first : Harness}
    (h : (Harness.new service world).1 = .ok first) (calls : List Setter) :
    (∀ setting : Setting, (first.setAll calls).config.get setting =
      (calls.reverse.findSome? (·.accepted? setting)).getD setting.default) ∧
    (first.setAll calls).config.service = first.config.service ∧
    (first.setAll calls).config.IsSound ∧
    Config.ofFields (first.setAll calls).config.toFields = .ok (first.setAll calls).config ∧
    (∀ call : Setter,
      (call.refusal? = none →
        (first.setAll calls).set call = .ok (first.setAll (calls ++ [call]))) ∧
      ∀ failure, call.refusal? = some failure → (first.setAll calls).set call = .error failure ∧
        first.setAll (calls ++ [call]) = first.setAll calls ∧
        failure.family =
          if call.strayType?.isSome then "TypeError" else "ConfigurationError") ∧
    ∀ front back one other, calls = front ++ one :: other :: back →
      (∀ setting, one.given setting = none ∨ other.given setting = none) →
      (first.setAll (front ++ other :: one :: back)).config = (first.setAll calls).config ∧
      ∃ answer answer' rest,
        first.answers calls = first.answers front ++ answer :: answer' :: rest ∧
        first.answers (front ++ other :: one :: back) =
          first.answers front ++ answer' :: answer :: rest := by
  obtain ⟨hp, hdefault⟩ := config_of_new h
  have hs : first.config.IsSound := hdefault ▸ isSound_default _
  have hfirst (setting : Setting) : first.config.get setting = setting.default := by
    rw [hdefault, Config.get_ofSettings]
  obtain ⟨hphase, hsound, hservice, hget⟩ := setAll_eq hp hs calls
  refine ⟨fun setting => ?_, hservice, hsound, Config.ofFields_toFields hsound, fun call => ?_, ?_⟩
  · rw [hget, hfirst]
  · have hset := set_eq hphase hsound call
    have hlast : first.setAll (calls ++ [call]) = (first.setAll calls).afterCall call := by
      simp [setAll]
    refine ⟨fun hr => ?_, fun failure hr => ?_⟩
    · simp [hlast, afterCall, hset, hr]
    · simp only [hr] at hset
      refine ⟨hset, ?_, Setter.family_of_refusal? hr⟩
      simp [hlast, afterCall, hset]
  · rintro front back one other rfl hapart
    obtain ⟨-, -, hservice', hget'⟩ := setAll_eq hp hs (front ++ other :: one :: back)
    refine ⟨Config.ext_get (hservice'.trans hservice.symm) fun setting => ?_, ?_⟩
    · rw [hget, hget']
      -- One of the two gives the setting nothing, so the last call that counts is the same.
      have hnone : one.accepted? setting = none ∨ other.accepted? setting = none :=
        (hapart setting).imp Setter.accepted?_eq_none Setter.accepted?_eq_none
      have hswap := findSome?_swap (·.accepted? setting) hnone back.reverse front.reverse
      simpa using congrArg (·.getD (first.config.get setting)) hswap
    · simp only [answers_eq hp hs, List.map_append, List.map_cons]
      exact ⟨_, _, _, rfl, rfl⟩

/-- A port in text, an application whose port is out of range and no client id: the refused call
leaves the application off, and the other two count. -/
theorem refused_application_left_off :
    let port : Setter := .port (.json (.string " 8080 "))
    let application : Setter := .applicationServer (.json (.string "web")) (.json (.int 70000))
    let clientId : Setter := .clientId (.json .null)
    let config := (fresh.setAll [port, application, clientId]).config
    config = ⟨.xsuaa, 8080, false, none, 44195, none, "default-kid"⟩ ∧
    Config.ofFields config.toFields = .ok config ∧
    (fresh.setAll [application, port, clientId]).config = config ∧
    (fresh.setAll [port]).set application = .error (.invalidSetting .useApplicationServer
      [⟨some "application_server_port", .above 65535⟩]) := by
  intro port application clientId config
  obtain ⟨hget, hservice, -, hback, -, hswap⟩ :=
    settings_independent new_fresh [port, application, clientId]
  obtain ⟨-, -, -, -, hcalls, -⟩ := settings_independent new_fresh [port]
  refine ⟨Config.ext_get hservice fun setting => (hget setting).trans ?_, hback, ?_, ?_⟩
  · cases setting with
    | mockServerPort => rfl
    | usesApplicationServer => rfl
    | webAppDirectory => rfl
    | applicationServerPort => rfl
    | clientId => rfl
    | keyId => rfl
  · refine (hswap [] [clientId] port application rfl fun setting => ?_).1
    cases setting with
    | mockServerPort => exact Or.inr rfl
    | usesApplicationServer => exact Or.inl rfl
    | webAppDirectory => exact Or.inl rfl
    | applicationServerPort => exact Or.inl rfl
    | clientId => exact Or.inl rfl
    | keyId => exact Or.inl rfl
  · exact ((hcalls application).2 _ rfl).1

end Harness

end MockIssuer
