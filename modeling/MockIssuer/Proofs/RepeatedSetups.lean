import Mathlib
import MockIssuer.Log.Setup

/-!
# Setting the log up again and again

The threshold of the log is meant to come from the first call that sets it up, and the renderer from
the last one. Only the first call looks for a level, and it has opened the outlet by then: where the
level is refused, the threshold stays what it was, for all calls to come (`run_configures`). So a
call that fails is not as if it had not been made, unless the next one asks for that threshold.
-/
namespace MockIssuer.Log

/-! ### Names of levels -/

/-- The levels by their names. -/
def levelNumbers : List (String × ℕ) :=
  [("NOTSET", 0), ("DEBUG", Level.number .debug), ("INFO", Level.number .info),
    ("WARN", Level.number .warning), ("WARNING", Level.number .warning),
    ("ERROR", Level.number .error), ("CRITICAL", Level.number .critical),
    ("FATAL", Level.number .critical)]

/-- Names that stand for something else than a level. -/
def refusedNames : List String := ["BASIC_FORMAT", "_STYLES"]

/-- The name of a level in an environment, in upper case. -/
def requestedName (environment : Environment) : String :=
  String.ofList (Text.upper (environment.logLevel.getD "INFO").toList)

/-- The level that an environment names; an unknown name stands for information. -/
def namedLevel (environment : Environment) : ℕ :=
  (levelNumbers.lookup (requestedName environment)).getD (Level.number .info)

lemma thresholdNamed_cases (name : String) :
    (name ∈ refusedNames ∧ ∃ failure, thresholdNamed name = .error failure) ∨
    (name ∉ refusedNames ∧
      thresholdNamed name = .ok ((levelNumbers.lookup name).getD (Level.number .info))) := by
  unfold thresholdNamed
  split
  any_goals exact Or.inr ⟨by decide, rfl⟩
  · exact Or.inl ⟨by decide, _, rfl⟩
  · exact Or.inl ⟨by decide, _, rfl⟩
  · refine Or.inr ⟨by simp_all [refusedNames], ?_⟩
    -- no name of the table is left but that of the level of information itself
    by_cases hi : name = "INFO"
    · subst hi
      rfl
    · have hn : levelNumbers.lookup name = none := by
        simp_all [levelNumbers, List.lookup_eq_none_iff]
      rw [hn]
      rfl

lemma requestedThreshold_cases (environment : Environment) :
    (requestedName environment ∈ refusedNames ∧
      ∃ failure, requestedThreshold environment = .error failure) ∨
    (requestedName environment ∉ refusedNames ∧
      requestedThreshold environment = .ok (namedLevel environment)) :=
  thresholdNamed_cases (requestedName environment)

/-! ### Calls -/

/-- A call that may set up the log. -/
inductive Call where
  | configure (environment : Environment)
  | beginSession (environment : Environment) (option : Json)

namespace Call

/-- The environment of a call that does set up the log. -/
def environment? : Call → Option Environment
  | configure environment => some environment
  | beginSession environment option => if option.isFalsy then none else some environment

/-- The environments of the calls that set up the log, in their order. -/
def asked (calls : List Call) : List Environment :=
  calls.filterMap environment?

lemma asked_cons (call : Call) (calls : List Call) :
    asked (call :: calls) = call.environment?.toList ++ asked calls := by
  rw [asked, List.filterMap_cons]
  cases call.environment? <;> rfl

end Call

namespace Setup

def apply (setup : Setup) : Call → Except Failure Unit × Setup
  | .configure environment => setup.configure environment
  | .beginSession environment option => setup.beginSession environment option

/-- What calls leave, one after the other. -/
def run (setup : Setup) (calls : List Call) : Setup :=
  calls.foldl (fun setup call => (setup.apply call).2) setup

/-- What each of the calls answers. -/
def answers : Setup → List Call → List (Except Failure Unit)
  | _, [] => []
  | setup, call :: calls => (setup.apply call).1 :: (setup.apply call).2.answers calls

/-- The environments of the calls that set up the log and did not fail. -/
def succeeded : Setup → List Call → List Environment
  | _, [] => []
  | setup, call :: calls =>
    (if (setup.apply call).1.isOk then call.environment?.toList else []) ++
      (setup.apply call).2.succeeded calls

/-- The calls are answered alike from both, and end with the same threshold and renderer. -/
def Alike (calls : List Call) (setup other : Setup) : Prop :=
  setup.answers calls = other.answers calls ∧
  (setup.run calls).threshold = (other.run calls).threshold ∧
  (setup.run calls).renderer = (other.run calls).renderer

variable {setup : Setup} {calls : List Call} {call : Call} {environment : Environment}

@[simp]
lemma run_nil : setup.run [] = setup := rfl

@[simp]
lemma run_cons : setup.run (call :: calls) = (setup.apply call).2.run calls := rfl

@[simp]
lemma run_append {front back : List Call} :
    setup.run (front ++ back) = (setup.run front).run back :=
  List.foldl_append

@[simp]
lemma answers_nil : setup.answers [] = [] := rfl

@[simp]
lemma answers_cons :
    setup.answers (call :: calls) =
      (setup.apply call).1 :: (setup.apply call).2.answers calls := rfl

/-! ### What one call does -/

lemma apply_of_none (h : call.environment? = none) : setup.apply call = (.ok (), setup) := by
  cases call with
  | configure environment => cases h
  | beginSession environment option =>
    have hf : option.isFalsy = true := by simpa [Call.environment?] using h
    simp [apply, beginSession, hf]

lemma apply_of_some (h : call.environment? = some environment) :
    setup.apply call = setup.configure environment := by
  cases call with
  | configure environment =>
    cases h
    rfl
  | beginSession environment option =>
    obtain ⟨hf, rfl⟩ : option.isFalsy = false ∧ _ := by simpa [Call.environment?] using h
    simp [apply, beginSession, hf]

lemma configure_of_hasOutlet (h : setup.hasOutlet = true) :
    setup.configure environment =
      (.ok (), { setup with renderer := some (requestedRenderer environment) }) := by
  simp [configure, h]

lemma configure_of_accepted (h : setup.hasOutlet = false)
    (ha : requestedName environment ∉ refusedNames) :
    setup.configure environment =
      (.ok (), ⟨true, namedLevel environment, some (requestedRenderer environment)⟩) := by
  obtain ⟨hr, -⟩ | ⟨-, ht⟩ := requestedThreshold_cases environment
  · exact absurd hr ha
  · simp [configure, h, ht]

lemma configure_of_refused (h : setup.hasOutlet = false)
    (hr : requestedName environment ∈ refusedNames) :
    ∃ failure, setup.configure environment =
      (.error failure, { setup with hasOutlet := true }) := by
  obtain ⟨-, failure, ht⟩ | ⟨ha, -⟩ := requestedThreshold_cases environment
  · exact ⟨failure, by simp [configure, h, ht]⟩
  · exact absurd hr ha

/-- Everything that a call can do. -/
lemma apply_cases (setup : Setup) (call : Call) :
    (call.environment? = none ∧ setup.apply call = (.ok (), setup)) ∨
    ∃ environment, call.environment? = some environment ∧
      ((setup.hasOutlet = true ∧ setup.apply call =
        (.ok (), { setup with renderer := some (requestedRenderer environment) })) ∨
      (setup.hasOutlet = false ∧ requestedName environment ∉ refusedNames ∧ setup.apply call =
        (.ok (), ⟨true, namedLevel environment, some (requestedRenderer environment)⟩)) ∨
      (setup.hasOutlet = false ∧ requestedName environment ∈ refusedNames ∧ ∃ failure,
        setup.apply call = (.error failure, { setup with hasOutlet := true }))) := by
  cases he : call.environment? with
  | none => exact Or.inl ⟨rfl, apply_of_none he⟩
  | some environment =>
    refine Or.inr ⟨environment, rfl, ?_⟩
    rw [apply_of_some he]
    by_cases ho : setup.hasOutlet = true
    · exact Or.inl ⟨ho, configure_of_hasOutlet ho⟩
    · have ho : setup.hasOutlet = false := by simpa using ho
      by_cases hr : requestedName environment ∈ refusedNames
      · exact Or.inr (Or.inr ⟨ho, hr, configure_of_refused ho hr⟩)
      · exact Or.inr (Or.inl ⟨ho, hr, configure_of_accepted ho hr⟩)

lemma apply_eq_error_iff :
    (∃ failure, (setup.apply call).1 = .error failure) ↔
      setup.hasOutlet = false ∧
      ∃ environment ∈ call.environment?, requestedName environment ∈ refusedNames := by
  obtain ⟨he, h⟩ | ⟨environment, he, ⟨ho, h⟩ | ⟨ho, ha, h⟩ | ⟨ho, hr, failure, h⟩⟩ :=
    apply_cases setup call
  · simp [he, h]
  · simp [h, ho]
  · simp [he, h, ha]
  · simp [he, h, ho, hr]

lemma apply_error_left {failure : Failure} (h : (setup.apply call).1 = .error failure) :
    (setup.apply call).2 = { setup with hasOutlet := true } := by
  obtain ⟨-, ha⟩ | ⟨environment, -, ⟨-, ha⟩ | ⟨-, -, ha⟩ | ⟨-, -, failure', ha⟩⟩ :=
    apply_cases setup call
  all_goals rw [ha] at h ⊢
  all_goals cases h

lemma apply_hasOutlet :
    (setup.apply call).2.hasOutlet = (setup.hasOutlet || call.environment?.isSome) := by
  obtain ⟨he, h⟩ | ⟨environment, he, ⟨ho, h⟩ | ⟨-, -, h⟩ | ⟨-, -, failure, h⟩⟩ :=
    apply_cases setup call
  · simp [he, h]
  · simp [he, h, ho]
  · simp [he, h]
  · simp [he, h]

lemma apply_threshold (h : setup.hasOutlet = true) :
    (setup.apply call).2.threshold = setup.threshold := by
  obtain ⟨-, ha⟩ | ⟨environment, -, ⟨-, ha⟩ | ⟨ho, -⟩ | ⟨ho, -⟩⟩ := apply_cases setup call
  · rw [ha]
  · rw [ha]
  · simp [h] at ho
  · simp [h] at ho

lemma apply_ok (h : setup.hasOutlet = true) : (setup.apply call).1 = .ok () := by
  cases hr : (setup.apply call).1 with
  | ok answer => rfl
  | error failure =>
    have ho := (apply_eq_error_iff.1 ⟨failure, hr⟩).1
    simp [h] at ho

lemma apply_renderer :
    (setup.apply call).2.renderer =
      ((if (setup.apply call).1.isOk then call.environment? else none).map requestedRenderer).or
        setup.renderer := by
  obtain ⟨he, h⟩ | ⟨environment, he, ⟨-, h⟩ | ⟨-, -, h⟩ | ⟨-, -, failure, h⟩⟩ :=
    apply_cases setup call
  all_goals simp [h, he, Except.isOk, Except.toBool]

lemma apply_renderer_of_hasOutlet (h : setup.hasOutlet = true) :
    (setup.apply call).2.renderer =
      (call.environment?.map requestedRenderer).or setup.renderer := by
  rw [apply_renderer, apply_ok h]
  rfl

/-! ### What a run of calls does -/

lemma run_renderer (calls : List Call) (setup : Setup) :
    (setup.run calls).renderer =
      ((setup.succeeded calls).getLast?.map requestedRenderer).or setup.renderer := by
  induction calls generalizing setup with
  | nil => rfl
  | cons call calls ih =>
    rw [run_cons, ih, apply_renderer, succeeded, List.getLast?_append]
    cases (succeeded (setup.apply call).2 calls).getLast? <;>
      cases call.environment? <;> split <;> rfl

/-- Once there is an outlet, no call fails and none changes the threshold. -/
lemma run_of_hasOutlet (setup : Setup) (calls : List Call) (h : setup.hasOutlet = true) :
    setup.answers calls = List.replicate calls.length (.ok ()) ∧
    (setup.run calls).threshold = setup.threshold ∧
    (setup.run calls).renderer =
      ((Call.asked calls).getLast?.map requestedRenderer).or setup.renderer := by
  induction calls generalizing setup with
  | nil => exact ⟨rfl, rfl, rfl⟩
  | cons call calls ih =>
    have ho : (setup.apply call).2.hasOutlet = true := by rw [apply_hasOutlet, h, Bool.true_or]
    obtain ⟨ha, ht, hr⟩ := ih (setup.apply call).2 ho
    refine ⟨?_, ?_, ?_⟩
    · rw [answers_cons, apply_ok h, ha, List.length_cons, List.replicate_succ]
    · rw [run_cons, ht, apply_threshold h]
    · rw [run_cons, hr, apply_renderer_of_hasOutlet h, Call.asked_cons, List.getLast?_append]
      cases (Call.asked calls).getLast? <;> cases call.environment? <;> rfl

lemma run_of_idle (calls : List Call) (h : Call.asked calls = []) : setup.run calls = setup := by
  induction calls with
  | nil => rfl
  | cons call calls ih =>
    rw [Call.asked_cons, List.append_eq_nil_iff, Option.toList_eq_nil_iff] at h
    rw [run_cons, apply_of_none h.1, ih h.2]

lemma run_hasOutlet (calls : List Call) (setup : Setup) :
    (setup.run calls).hasOutlet = (setup.hasOutlet || !(Call.asked calls).isEmpty) := by
  induction calls generalizing setup with
  | nil => simp [Call.asked]
  | cons call calls ih =>
    rw [run_cons, ih, apply_hasOutlet, Call.asked_cons]
    cases call.environment? <;> simp

lemma run_threshold (calls : List Call) (h : setup.hasOutlet = false)
    (ha : ∀ answer ∈ setup.answers calls, answer = .ok ()) :
    (setup.run calls).threshold =
      ((setup.succeeded calls).head?.map namedLevel).getD setup.threshold := by
  induction calls with
  | nil => rfl
  | cons call calls ih =>
    rw [answers_cons, List.forall_mem_cons] at ha
    obtain ⟨he, hs⟩ | ⟨environment, he, ⟨ho, -⟩ | ⟨-, -, hs⟩ | ⟨-, -, failure, hs⟩⟩ :=
      apply_cases setup call
    · simp only [hs] at ha
      simp [succeeded, hs, he, ih ha.2]
    · simp [h] at ho
    · have ht := (run_of_hasOutlet (setup.apply call).2 calls (by rw [hs])).2.1
      rw [run_cons, ht]
      simp [succeeded, hs, he, Except.isOk, Except.toBool]
    · simp [hs] at ha

/-- A log with an outlet and one without are alike for calls of which the first to set up the log
asks for the threshold that is there. -/
lemma alike_opened_iff (calls : List Call) (h : setup.hasOutlet = false) :
    Alike calls { setup with hasOutlet := true } setup ↔
      ∀ next ∈ (Call.asked calls).head?,
        requestedName next ∉ refusedNames ∧ namedLevel next = setup.threshold := by
  induction calls with
  | nil => simp [Alike, Call.asked]
  | cons call calls ih =>
    cases he : call.environment? with
    | none =>
      have ha : Call.asked (call :: calls) = Call.asked calls := by simp [Call.asked_cons, he]
      rw [ha, ← ih]
      simp [Alike, apply_of_none he]
    | some environment =>
      have ha : (Call.asked (call :: calls)).head? = some environment := by
        simp [Call.asked_cons, he]
      rw [ha]
      by_cases hr : requestedName environment ∈ refusedNames
      · obtain ⟨failure, hs⟩ := configure_of_refused h hr
        simp [Alike, apply_of_some he, hs, configure_of_hasOutlet, hr]
      · obtain ⟨hb, ht, hw⟩ := run_of_hasOutlet
          ⟨true, setup.threshold, some (requestedRenderer environment)⟩ calls rfl
        obtain ⟨hb', ht', hw'⟩ := run_of_hasOutlet
          ⟨true, namedLevel environment, some (requestedRenderer environment)⟩ calls rfl
        simp [Alike, apply_of_some he, configure_of_hasOutlet, configure_of_accepted h hr, hr,
          hb, ht, hw, hb', ht', hw']
        exact eq_comm

/-- A call fails after some calls and before others. -/
def FailsAt (setup : Setup) (calls front : List Call) (call : Call) (back : List Call) : Prop :=
  calls = front ++ call :: back ∧ ∃ failure, ((setup.run front).apply call).1 = .error failure

/-- What calls come to. The renderer is that of the last one that succeeded. Unless one of them
fails, the threshold is the level named by the first. A call fails exactly when it is the first to
set up the log and the name in its environment stands for something else than a level. No call fails
after it and the threshold is never changed; this is as if it had not been made exactly when the next
one that sets up the log, if there is one, asks for the threshold that is there. -/
structure Configures (setup : Setup) (calls : List Call) : Prop where
  renderer : (setup.run calls).renderer =
    ((setup.succeeded calls).getLast?.map requestedRenderer).or setup.renderer
  threshold : (∀ answer ∈ setup.answers calls, answer = .ok ()) → (setup.run calls).threshold =
    ((setup.succeeded calls).head?.map namedLevel).getD setup.threshold
  failsAt_iff : ∀ front call back, setup.FailsAt calls front call back ↔
    calls = front ++ call :: back ∧ Call.asked front = [] ∧
      ∃ environment ∈ call.environment?, requestedName environment ∈ refusedNames
  answered : ∀ front call back, setup.FailsAt calls front call back →
    ∀ answer ∈ ((setup.run front).apply call).2.answers back, answer = .ok ()
  kept : ∀ front call back, setup.FailsAt calls front call back →
    (setup.run calls).threshold = setup.threshold
  undone_iff : ∀ front call back, setup.FailsAt calls front call back →
    (Alike back ((setup.run front).apply call).2 (setup.run front) ↔
      ∀ next ∈ (Call.asked back).head?,
        requestedName next ∉ refusedNames ∧ namedLevel next = setup.threshold)

lemma FailsAt.asked_eq_nil (h : setup.hasOutlet = false) {front back : List Call}
    (hf : setup.FailsAt calls front call back) : Call.asked front = [] := by
  obtain ⟨hidle, -⟩ := apply_eq_error_iff.1 hf.2
  simpa [run_hasOutlet, h] using hidle

lemma FailsAt.left (h : setup.hasOutlet = false) {front back : List Call}
    (hf : setup.FailsAt calls front call back) :
    setup.run front = setup ∧
      ((setup.run front).apply call).2 = { setup with hasOutlet := true } := by
  have hidle : setup.run front = setup := run_of_idle front (hf.asked_eq_nil h)
  obtain ⟨-, failure, herror⟩ := hf
  rw [apply_error_left herror, hidle]
  exact ⟨rfl, rfl⟩

/-- Starting without an outlet, and over any calls that may set up the log. -/
theorem run_configures (setup : Setup) (h : setup.hasOutlet = false) (calls : List Call) :
    setup.Configures calls where
  renderer := run_renderer calls setup
  threshold := run_threshold calls h
  failsAt_iff front call back := by
    have hidle : (setup.run front).hasOutlet = false ↔ Call.asked front = [] := by
      simp [run_hasOutlet, h]
    rw [FailsAt, apply_eq_error_iff, hidle]
  answered front call back hf := by
    obtain ⟨ha, -⟩ := run_of_hasOutlet { setup with hasOutlet := true } back rfl
    rw [(hf.left h).2, ha]
    exact fun answer hm => List.eq_of_mem_replicate hm
  kept front call back hf := by
    obtain ⟨-, ht, -⟩ := run_of_hasOutlet { setup with hasOutlet := true } back rfl
    rw [hf.1, run_append, run_cons, (hf.left h).2, ht]
  undone_iff front call back hf := by
    rw [(hf.left h).2, (hf.left h).1]
    exact alike_opened_iff back h

/-- A session that does not ask for the log to be set up. -/
def quietSession : Call := .beginSession {} (.bool false)

/-- A session that asks for the log to be set up, with the given level. -/
def loudSession (level : String) : Call := .beginSession { logLevel := some level } (.bool true)

/-- A call for a terminal, with the given level. -/
def consoleCall (level : String) : Call :=
  .configure { logLevel := some level, logFormat := some "console" }

/-- After a session that does not set up the log, the level is that of the first call and the
renderer that of the last. Where the first call names a format, it fails and the last is answered
as if alone, since it asks for the level that there was. -/
theorem later_session_renders :
    (run {} [quietSession, consoleCall "debug", loudSession "ERROR"]).threshold = 10 ∧
    (run {} [quietSession, consoleCall "debug", loudSession "ERROR"]).renderer = some .json ∧
    ∃ failure, ((run {} [quietSession]).apply (consoleCall "basic_format")).1 = .error failure ∧
      Alike [loudSession "WARN"] ((run {} [quietSession]).apply (consoleCall "basic_format")).2
        (run {} [quietSession]) := by
  have hcalls := run_configures {} rfl [quietSession, consoleCall "debug", loudSession "ERROR"]
  have hanswers : answers {} [quietSession, consoleCall "debug", loudSession "ERROR"] =
      List.replicate 3 (.ok ()) := by rfl
  have hrefused :=
    run_configures {} rfl [quietSession, consoleCall "basic_format", loudSession "WARN"]
  have hfails : FailsAt {} [quietSession, consoleCall "basic_format", loudSession "WARN"]
      [quietSession] (consoleCall "basic_format") [loudSession "WARN"] :=
    (hrefused.failsAt_iff _ _ _).2 ⟨rfl, rfl, _, rfl, by decide +kernel⟩
  obtain ⟨failure, hf⟩ := hfails.2
  refine ⟨(hcalls.threshold ?_).trans (by decide +kernel),
    hcalls.renderer.trans (by decide +kernel), failure, hf,
    (hrefused.undone_iff _ _ _ hfails).2 ?_⟩
  · rw [hanswers]
    exact fun answer hm => List.eq_of_mem_replicate hm
  · intro next hn
    cases hn
    decide +kernel

/-- A call that names a format keeps the next one from setting the level that it asks for. -/
theorem failed_call_hides_level :
    (∃ failure, answers {} [consoleCall "BASIC_FORMAT", loudSession "DEBUG"] =
      [.error failure, .ok ()]) ∧
    (run {} [consoleCall "BASIC_FORMAT", loudSession "DEBUG"]).threshold = 30 ∧
    answers {} [loudSession "DEBUG"] = [.ok ()] ∧
    (run {} [loudSession "DEBUG"]).threshold = 10 :=
  ⟨⟨_, rfl⟩, by decide +kernel, rfl, by decide +kernel⟩

end Setup

/-- What a logger writes that has written before depends on the threshold alone, of any log that is
configured, and it keeps its renderer. -/
theorem Logger.write_of_renderer {logger : Logger} {renderer : Renderer}
    (hl : logger.renderer = some renderer) {setup other : Setup}
    (hs : setup.isConfigured = true) (ho : other.isConfigured = true)
    (ht : setup.threshold = other.threshold) (level : Level) (event : Json)
    (fields : Json.Fields) :
    logger.write setup level event fields = logger.write other level event fields ∧
      (logger.write setup level event fields).2.renderer = some renderer := by
  obtain ⟨latest, hlatest⟩ := Option.isSome_iff_exists.1 hs
  obtain ⟨later, hlater⟩ := Option.isSome_iff_exists.1 ho
  unfold write
  constructor
  · simp only [hlatest, hlater, ht, hl, Option.getD_some]
  · simp only [hlatest, hl, Option.getD_some]
    cases logger.shownName with
    | error failure => exact hl
    | ok name => rfl

end MockIssuer.Log
