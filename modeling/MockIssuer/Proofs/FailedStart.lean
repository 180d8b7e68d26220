import MockIssuer.Proofs.FailedSetup

/-!
# Starts that fail

A start that fails tells so as a failed start and gives back the host and the world from before, but
for what no unloading finds and for a working area in use. There are two other ways to fail. Before
there is a working area, a refusal by the system comes out as it is, and nothing has happened. And a
module of the application can raise a failure that is not handled: the start is then broken off, and
what it has made stays (`failed_start`). Nothing else can break a start off (`launch_error`), and a
host that was never started has nothing but what a start that was broken off has left with it
(`Reachable.isBlank`).
-/
namespace MockIssuer

/-- A failure that the program of some file ends with. -/
def FileSystem.Raises (files : FileSystem) (failure : Failure) : Prop :=
  ∃ location family message, (files.program location).ending = .raises family message ∧
    failure = .raised family [.string message] []

namespace World

/-- An ending that raises nothing but what the program of some file raises. -/
def IsEndingIn (files : FileSystem) (ending : Ending) : Prop :=
  ∀ family message, ending = .raises family message →
    files.Raises (.raised family [.string message] [])

lemma isEndingIn_program (files : FileSystem) (location : Location) :
    IsEndingIn files (files.program location).ending :=
  fun family message h => ⟨location, family, message, h, rfl⟩

/-- A failure that is handled, or that the program of some file raised. -/
def IsLoadFailure (files : FileSystem) (failure : Failure) : Prop :=
  failure.isOrdinary = true ∨ files.Raises failure

lemma importModule_files (fuel : ℕ) (world : World) (name : String) :
    (importModule fuel world name).2.files = world.files := by
  have himports : IsLoading.Imports { world with modules := [], searchPath := [] }
      (fun _ _ => True) (fun _ => True) fuel :=
    (IsLoading.runs_and_imports (fun _ _ _ => trivial) (fun _ _ _ => trivial) fuel).2
  exact (himports world name
    ⟨world.modules, world.searchPath, rfl, fun _ _ => trivial, fun _ _ => trivial⟩).parts.1

/-- Programs that run with some fuel fail as loading may. -/
def RunsFail (files : FileSystem) (fuel : ℕ) : Prop :=
  ∀ world name directory ending imported steps failure, world.files = files →
    IsEndingIn files ending →
    (runSteps fuel world name directory ending imported steps).1 = .error failure →
    IsLoadFailure files failure

/-- Imports with some fuel fail as loading may. -/
def ImportsFail (files : FileSystem) (fuel : ℕ) : Prop :=
  ∀ world name failure, world.files = files →
    (importModule fuel world name).1 = .error failure → IsLoadFailure files failure

variable {files : FileSystem} {fuel : ℕ}

lemma runsFail_succ (hruns : RunsFail files fuel) (himports : ImportsFail files fuel) :
    RunsFail files (fuel + 1) := by
  intro world name directory ending imported steps failure hfiles hending h
  match steps with
  | [] =>
    have hfinish : runSteps (fuel + 1) world name directory ending imported [] =
        world.finish name imported ending := by
      rw [runSteps]
      simp
    rw [hfinish] at h
    cases ending with
    | defines names => cases h
    | raises family message =>
      obtain rfl := Except.error.inj h
      exact Or.inr (hending family message rfl)
  | .importModule other :: rest =>
    rw [runSteps] at h
    rcases hi : importModule fuel world other with ⟨cause | value, left⟩
    · rw [hi] at h
      obtain rfl := Except.error.inj h
      exact himports world other cause hfiles (by rw [hi])
    · rw [hi] at h
      have hleft : left.files = files := by
        rw [← hfiles, ← importModule_files fuel world other, hi]
      exact hruns left name directory ending _ rest failure hleft hending h
  | .leavePath :: rest =>
    rw [runSteps] at h
    exact hruns (world.leavePath directory) name directory ending imported rest failure hfiles
      hending h
  | .enterPath position :: rest =>
    rw [runSteps] at h
    exact hruns (world.enterPath position directory) name directory ending imported rest failure
      hfiles hending h

lemma isOrdinary_recursion : (Failure.foreign "RecursionError" []).isOrdinary = true := by
  decide

lemma isOrdinary_noModule (name : String) : (noModule name).isOrdinary = true := by
  change Family.isWithin "ModuleNotFoundError" "Exception" = true
  decide

lemma importsFail_succ (hruns : RunsFail files fuel) : ImportsFail files (fuel + 1) := by
  intro world name failure hfiles h
  unfold importModule at h
  split at h
  · obtain rfl := Except.error.inj h
    exact Or.inl isOrdinary_recursion
  · cases h
  · obtain rfl := Except.error.inj h
    exact Or.inl (isOrdinary_noModule name)
  · cases h
  · next _ _ _ left file hfuel hmodule hfile =>
    obtain rfl : fuel = left := Nat.succ.inj hfuel
    simp only at h
    rcases hr : runSteps fuel { world with
      modules := world.modules.register ⟨.named name, .file file, []⟩ } (.named name)
      file.dropLast (world.files.program file).ending [] (world.files.program file).steps with
      ⟨cause | ⟨⟩, after⟩
    · rw [hr] at h
      obtain rfl := Except.error.inj h
      refine hruns _ _ _ _ _ _ cause ?_ (isEndingIn_program files file) (by rw [← hfiles, hr])
      exact hfiles
    · rw [hr] at h
      cases h

/-- A program that runs and a module that is imported fail as loading may. Each calls the other with
less fuel, so the induction is over both at once. -/
lemma runsFail_and_importsFail (files : FileSystem) (fuel : ℕ) :
    RunsFail files fuel ∧ ImportsFail files fuel := by
  induction fuel with
  | zero =>
    constructor
    · intro world name directory ending imported steps failure _ _ h
      rw [runSteps] at h
      obtain rfl := Except.error.inj h
      exact Or.inl isOrdinary_recursion
    · intro world name failure _ h
      rw [importModule] at h
      obtain rfl := Except.error.inj h
      exact Or.inl isOrdinary_recursion
  | succ fuel ih =>
    obtain ⟨hruns, himports⟩ := ih
    exact ⟨runsFail_succ hruns himports, importsFail_succ hruns⟩

/-- Loading an entry module fails with a failure that is handled, or with one of a program. -/
theorem loadEntry_error {world : World} {file : Location} {failure : Failure}
    (h : (world.loadEntry file).2.1 = .error failure) : IsLoadFailure world.files failure := by
  obtain ⟨hruns, -⟩ := runsFail_and_importsFail world.files world.loadFuel
  unfold loadEntry at h
  refine hruns _ _ _ _ _ _ failure ?_ (isEndingIn_program world.files file) h
  rfl

lemma isOrdinary_bind_error {world bound : World} {host : String} {port : ℤ} {failure : Failure}
    (h : world.bind host port = (.error failure, bound)) : failure.isOrdinary = true := by
  rcases bind_error (congrArg Prod.fst h) with ⟨fault, rfl⟩ | ⟨_, -, rfl⟩ | ⟨rfl, -⟩
  · exact AppHost.isOrdinary_of_family rfl
  · change Family.isWithin "TypeError" "Exception" = true
    decide
  · change Family.isWithin "OverflowError" "Exception" = true
    decide

end World

namespace AppHost
variable {world : World} {host : AppHost} {failure : Failure}

/-- Loading an application fails with a failure that is handled, or with one of a program; it has
registered an entry module then. -/
lemma loadApp_error {copy : Location} (h : (host.loadApp copy world).result = .error failure) :
    failure.isOrdinary = true ∨
      (host.loadApp copy world).self.entry = some (world.entries + 1) ∧
        world.files.Raises failure := by
  unfold loadApp at h ⊢
  simp only at h ⊢
  split at h
  · cases h
  · next hfile =>
    rw [if_neg hfile]
    rcases hl : world.loadEntry (moduleFile copy host.entryModule) with ⟨number, _ | _, after⟩
    · rw [hl] at h
      obtain rfl := Except.error.inj h
      rcases World.loadEntry_error (congrArg (·.2.1) hl) with hordinary | hraises
      · exact Or.inl hordinary
      · have hnumber : world.entries + 1 = number := congrArg Prod.fst hl
        exact Or.inr ⟨congrArg some hnumber.symm, hraises⟩
    · rw [hl] at h
      simp only at h
      split at h
      · cases h
      · obtain rfl := Except.error.inj h
        exact Or.inl (isOrdinary_of_family rfl)

/-- A launch fails with a failure that is handled, or breaks off with one of a program. -/
theorem launch_error (hs : world.Sound) {source : Location} {port : ℤ}
    (h : (host.launch source (areaOf (world.areas + 1)) port (makeArea world).2).result =
      .error failure) :
    failure.isOrdinary = true ∨
      (host.launch source (areaOf (world.areas + 1)) port (makeArea world).2).self.entry =
          some (world.entries + 1) ∧
        (host.launch source (areaOf (world.areas + 1)) port (makeArea world).2).world.files.Raises
          failure := by
  rw [makeArea_eq] at h ⊢
  unfold launch at h ⊢
  simp only at h ⊢
  split at h
  · obtain rfl := Except.error.inj h
    exact Or.inl (isOrdinary_refusedBySystem _)
  · set copied : World := { world with
      areas := world.areas + 1
      files := (world.files.write (areaOf (world.areas + 1)) .directory).copyTree source
        (areaOf (world.areas + 1) ++ ["webapp"]) }
    obtain ⟨entry, entries, added, path, log, -, hworld, -⟩ :=
      loadApp_cases host (areaOf (world.areas + 1) ++ ["webapp"]) copied hs.ne_next
    have hfiles : (host.loadApp (areaOf (world.areas + 1) ++ ["webapp"]) copied).world.files =
        copied.files := by
      rw [hworld]
    rcases hl : host.loadApp (areaOf (world.areas + 1) ++ ["webapp"]) copied with
      ⟨cause | hosted, loaded, after⟩
    · rw [hl] at h hfiles
      obtain rfl := Except.error.inj h
      rcases loadApp_error (congrArg (·.result) hl) with hordinary | ⟨hentry, hraises⟩
      · exact Or.inl hordinary
      rw [hl] at hentry
      exact Or.inr ⟨hentry, hfiles ▸ hraises⟩
    · rw [hl] at h
      simp only at h
      have hidle : (BackgroundServer.new after.environment serverName port loaded.host).running =
          none := rfl
      rcases BackgroundServer.start_cases hidle after with ⟨cause, hbind, hstart⟩ |
        ⟨_, _, _, _, -, hstart, -⟩
      · rw [hstart] at h
        obtain rfl := Except.error.inj h
        exact Or.inl (World.isOrdinary_bind_error hbind)
      · rw [hstart] at h
        cases h

/-- Whether the system refuses a start before there is a working area: it does not let the directory
be looked at, or no area can be made. -/
def IsRefused (world : World) (directory : Path) (failure : Failure) : Prop :=
  ∃ fault, failure = .refusedBySystem fault ∧
    (look world directory (shown directory) = .error fault ∨
      (∃ source, look world directory (shown directory) = .ok (some source)) ∧
        world.areaFault = some fault)

/-- A start of a host that was not started tells of a failed start, or is broken off, or nothing has
happened and it tells what the system refused. -/
theorem start_error (hs : world.Sound) (hn : host.server = none) {directory : Path} {port : ℤ}
    (h : (host.start directory port world).result = .error failure) :
    (failure.family = "ResourceStartupError" ∨
      failure.isOrdinary = false ∧
        (host.start directory port world).self.entry = some (world.entries + 1) ∧
        (host.start directory port world).world.files.Raises failure) ∨
    IsRefused world directory failure ∧
      host.start directory port world = ⟨.error failure, host, world⟩ := by
  unfold start at h ⊢
  simp only [hn, Option.isSome_none, Bool.false_eq_true, if_false] at h ⊢
  split at h
  · next fault hlook =>
    obtain rfl := Except.error.inj h
    exact Or.inr ⟨⟨fault, rfl, Or.inl hlook⟩, rfl⟩
  · obtain rfl := Except.error.inj h
    exact Or.inl (Or.inl rfl)
  · next source fault hlook hfault =>
    obtain rfl := Except.error.inj h
    exact Or.inr ⟨⟨fault, rfl, Or.inr ⟨⟨source, hlook⟩, hfault⟩⟩, rfl⟩
  · next source _ _ =>
    refine Or.inl ?_
    unfold startIn at h ⊢
    rw [makeArea_eq] at h ⊢
    simp only at h ⊢
    rcases hl : host.launch source (areaOf (world.areas + 1)) port { world with
        areas := world.areas + 1
        files := world.files.write (areaOf (world.areas + 1)) .directory } with
      ⟨cause | ⟨hosted, server, number⟩, made, launched⟩
    · rw [hl] at h
      simp only at h
      cases ho : cause.isOrdinary with
      | true =>
        simp only [ho, if_true] at h
        obtain rfl := Except.error.inj h
        exact Or.inl (startFailure_family port cause)
      | false =>
        simp only [ho, Bool.false_eq_true, if_false] at h ⊢
        obtain rfl := Except.error.inj h
        have hbroken := (launch_error hs (congrArg (·.result) hl)).resolve_left (by simp [ho])
        rw [makeArea_eq, hl] at hbroken
        exact Or.inr ⟨ho, hbroken⟩
    · rw [hl] at h
      cases h

/-- What a start that failed leaves: the host as it was, and the world from before but for what is
left of any start. -/
structure IsTakenBack (host : AppHost) (before : World) (outcome : Outcome AppHost String) :
    Prop where
  self : outcome.self = host
  world : before.IsGivenBack outcome.world

/-- What a start leaves that the application broke off: a program has raised the failure, and the
working area stays, and so do the entry module and what was loaded with it. -/
structure IsBrokenOff (host : AppHost) (before : World) (failure : Failure)
    (outcome : Outcome AppHost String) : Prop where
  raised : outcome.world.files.Raises failure
  isOrdinary_eq_false : failure.isOrdinary = false
  self : outcome.self = { host with entry := some (before.entries + 1) }
  bound : outcome.world.bound = before.bound
  area : outcome.world.files.at? (areaOf (before.areas + 1)) = some .directory
  files : outcome.world.files.removeTree (areaOf (before.areas + 1)) = before.files
  modules : ∃ added, outcome.world.modules = before.modules ++ added ∧
    ∀ module ∈ added, IsAdded before module

lemma isTakenBack_of_sameState {after : World} (hsame : world.SameState after)
    (result : Except Failure String) : host.IsTakenBack world ⟨result, host, after⟩ := by
  obtain ⟨log, rfl⟩ := hsame
  exact ⟨rfl, World.isGivenBack_of_modules [] rfl (Or.inl rfl) (List.append_nil _).symm (by simp)⟩

lemma Launched.isTakenBack {entry : Option ℕ} {launched after : World}
    (hl : Launched host world entry [] launched) (hs : world.Sound) (hn : host.entry = none)
    (hsame : World.SameState { launched with
      files := AppHost.filesWithout launched (areaOf (world.areas + 1))
      modules := launched.modules.filter
        (!isLoadedBy entry (some (areaOf (world.areas + 1))) ·) } after)
    (result : Except Failure String) : host.IsTakenBack world ⟨result, host, after⟩ := by
  obtain ⟨log, rfl⟩ := hsame
  obtain ⟨left, hmodules, hleft⟩ := hl.filter_modules hs hn
  refine ⟨rfl, World.isGivenBack_of_modules left ?_ hl.filesLeft hmodules hleft⟩
  simpa using hl.bound

/-- A host that was not started has nothing, apart from the entry module of a start that was broken
off. -/
def IsBlank (host : AppHost) : Prop :=
  host.server = none → host = {
    entryModule := host.entryModule
    appName := host.appName
    host := host.host
    entry := host.entry }

lemma IsBlank.eq (hb : host.IsBlank) (hn : host.server = none) (he : host.entry = none) :
    host = { entryModule := host.entryModule, appName := host.appName, host := host.host } := by
  have hblank := hb hn
  rwa [he] at hblank

/-- A start of a host that was not started, and of which no start was broken off, fails and is taken
back, or is broken off, or is refused by the system. -/
lemma isTakenBack_or_isBrokenOff (hs : world.Sound) (hn : host.server = none)
    (he : host.entry = none) {directory : Path} {port : ℤ}
    (h : (host.start directory port world).result = .error failure) :
    failure.family = "ResourceStartupError" ∧
        host.IsTakenBack world (host.start directory port world) ∨
      host.IsBrokenOff world failure (host.start directory port world) ∨
      IsRefused world directory failure ∧
        host.start directory port world = ⟨.error failure, host, world⟩ := by
  have hself : { host with entry := none } = host := by
    cases host
    cases he
    rfl
  rcases start_error hs hn h with herror | hrefused
  swap
  · exact Or.inr (Or.inr hrefused)
  rcases start_cases hs host directory port with ⟨cause, after, ho, hstart, hsame⟩ |
    ⟨-, entry, ports, launched, hl, ⟨cause, after, ho, rfl, hstart, hsame⟩ |
      ⟨cause, ho, rfl, hstart⟩ | ⟨_, _, _, _, -, -, hstart⟩⟩
  · rw [hstart] at h herror ⊢
    obtain rfl := Except.error.inj h
    exact Or.inl ⟨herror.resolve_right (by simp [ho]), isTakenBack_of_sameState hsame _⟩
  · rw [hstart] at h herror ⊢
    obtain rfl := Except.error.inj h
    rw [hself]
    exact Or.inl ⟨herror.resolve_right (by simp [ho]), hl.isTakenBack hs he hsame _⟩
  · rw [hstart] at h herror ⊢
    obtain rfl := Except.error.inj h
    obtain ⟨-, hentry, hraises⟩ := herror.resolve_left fun hfamily => by
      rw [isOrdinary_of_family hfamily] at ho
      cases ho
    obtain rfl : entry = some (world.entries + 1) := hentry
    exact Or.inr (Or.inl
      ⟨hraises, ho, rfl, by simpa using hl.bound, hl.area, hl.files, hl.modules⟩)
  · rw [hstart] at h
    cases h

lemma IsBlank.act {left : AppHost} {world' : World} (hb : host.IsBlank) (hs : world.Sound)
    (h : Act host world left world') : left.IsBlank := by
  cases h with
  | start directory port =>
    rcases start_cases hs host directory port with ⟨_, _, -, hstart, -⟩ |
      ⟨hn, entry, _, _, -, ⟨_, _, -, -, hstart, -⟩ | ⟨_, -, -, hstart⟩ | ⟨_, _, _, _, -, -, hstart⟩⟩
    · rw [hstart]
      exact hb
    · rw [hstart, hb hn]
      exact fun _ => rfl
    · rw [hstart, hb hn]
      exact fun _ => rfl
    · rw [hstart]
      intro hnone
      cases hnone
  | stop =>
    rcases stop_cases host world with ⟨_, -, hstop⟩ | ⟨_, _, hstop, -⟩
    · rw [hstop]
      exact hb
    · rw [hstop]
      intro hnone
      rw [hb (Option.map_eq_none_iff.1 hnone)]
      rfl
  | handle request =>
    intro hnone
    have hn : host.server = none := hnone
    rw [hb hn]
    rfl
  | drift _ server running thread _ _ =>
    intro hnone
    cases hnone

end AppHost

namespace Fleet
variable {fleet after : Fleet}

lemma Step.isBlank (hs : fleet.world.Sound) (h : Step fleet after)
    (hb : ∀ host, .host host ∈ fleet.parties → host.IsBlank) :
    ∀ host, .host host ∈ after.parties → host.IsBlank := by
  intro host hmem
  cases h with
  | join world last parties party hjoins =>
    rcases List.mem_cons.1 hmem with rfl | hmem
    · cases hjoins
      exact fun _ => rfl
    · exact hb host hmem
  | act world last front back party made hact =>
    rcases List.mem_append.1 hmem with hfront | hmem
    · exact hb host (List.mem_append_left _ hfront)
    · rcases List.mem_cons.1 hmem with rfl | hback
      · cases hact with
        | host before _ _ ha => exact (hb before (by simp)).act hs ha
      · exact hb host (List.mem_append_right _ (List.mem_cons_of_mem _ hback))
  | change world last parties hchange => exact hb host hmem

/-- In every fleet that there can be, a host that was not started has nothing. -/
theorem Reachable.isBlank (h : fleet.Reachable) {host : AppHost}
    (hmem : .host host ∈ fleet.parties) : host.IsBlank := by
  obtain ⟨world, hs, hsteps⟩ := h
  induction hsteps generalizing host with
  | refl => cases hmem
  | tail hprior hstep ih =>
    exact hstep.isBlank (Reachable.sound ⟨world, hs, hprior⟩).world (fun _ => ih) host hmem

/-- A start that fails, in any fleet, of a host that was not started and of which no start was
broken off. The failure is a failed start, the host is as good as a new one, and the files, the ports
and the modules are those from before, but for packages without a file, modules from elsewhere along
the search path and a working area in use. Or a program of the application raised a failure that is
not handled, and what the start has made stays. Or the system refused something before there was a
working area: the failure tells that, is no failed start, and nothing has happened. -/
theorem failed_start (hf : fleet.Reachable) {host : AppHost} (hmem : .host host ∈ fleet.parties)
    (hn : host.server = none) (he : host.entry = none) {directory : Path} {port : ℤ}
    {failure : Failure}
    (h : (host.start directory port fleet.world).result = .error failure) :
    host = { entryModule := host.entryModule, appName := host.appName, host := host.host } ∧
    (failure.family = "ResourceStartupError" ∧
        host.IsTakenBack fleet.world (host.start directory port fleet.world) ∨
      host.IsBrokenOff fleet.world failure (host.start directory port fleet.world) ∨
      AppHost.IsRefused fleet.world directory failure ∧
        Family.isWithin failure.family "OSError" = true ∧
        host.start directory port fleet.world = ⟨.error failure, host, fleet.world⟩) := by
  refine ⟨(hf.isBlank hmem).eq hn he, ?_⟩
  rcases AppHost.isTakenBack_or_isBrokenOff hf.sound.world hn he h with
    htaken | hbroken | ⟨hrefused, hstart⟩
  · exact Or.inl htaken
  · exact Or.inr (Or.inl hbroken)
  · obtain ⟨fault, rfl, -⟩ := id hrefused
    exact Or.inr (Or.inr ⟨hrefused, (Family.isWithin_ofSystemNumber fault.number).1, hstart⟩)

/-- A world with a web application that imports a module beside it and then raises a failure. -/
def raising (family : String) : World where
  files := [
    (["cwd"], .directory),
    (["cwd", "web"], .directory),
    (["cwd", "web", "app.py"], .module ⟨[.importModule "store"], .raises family "bye"⟩),
    (["cwd", "web", "store.py"], .module ⟨[], .defines []⟩)]

lemma raising_sound (family : String) : (raising family).Sound := by
  refine .of_currentLocation (fun pair hpair => ?_) rfl
  simp only [raising, List.mem_cons, List.not_mem_nil, or_false] at hpair
  rcases hpair with rfl | rfl | rfl | rfl <;> simp [World.currentLocation]

/-- A failure that is handled is taken back: the start says why it failed, and the module that the
application had imported is gone. -/
theorem raising_start_taken_back :
    let host : AppHost := { entryModule := "app", appName := "app", host := none }
    let outcome := host.start ⟨0, ["web"]⟩ 8181 (raising "RuntimeError")
    outcome.result = .error (.applicationStart 8181 (.foreign "RuntimeError" [.string "bye"])) ∧
    outcome.self = host ∧ outcome.world.files = (raising "RuntimeError").files ∧
    outcome.world.modules = [] := by
  intro host outcome
  have herror : outcome.result =
      .error (.applicationStart 8181 (.foreign "RuntimeError" [.string "bye"])) := by rfl
  have hjoin : Relation.ReflTransGen Step ⟨raising "RuntimeError", []⟩
      ⟨raising "RuntimeError", [.host host]⟩ := .single (.join _ _ [] _ (.host _ _ _))
  have hordinary : (Failure.applicationStart 8181
      (.foreign "RuntimeError" [.string "bye"])).isOrdinary = true :=
    AppHost.isOrdinary_of_family rfl
  obtain ⟨-, hfailed⟩ := failed_start ⟨_, raising_sound _, hjoin⟩ (List.mem_singleton_self _) rfl
    rfl herror
  dsimp only at hfailed
  rcases hfailed with ⟨-, htaken⟩ | hbroken | ⟨⟨_, hfault, -⟩, -, -⟩
  · exact ⟨herror, htaken.self, htaken.world.files.resolve_right (by simp [raising]), by rfl⟩
  · rw [hbroken.isOrdinary_eq_false] at hordinary
    cases hordinary
  · cases hfault

/-- An application that ends the process while it loads leaves a working area, its entry module and
the module that it had imported, and the start does not tell of a failed start. -/
theorem exit_leaves_area :
    let host : AppHost := { entryModule := "app", appName := "app", host := none }
    let outcome := host.start ⟨0, ["web"]⟩ 8181 (raising "SystemExit")
    outcome.result = .error (.foreign "SystemExit" [.string "bye"]) ∧
    outcome.world.files.topDirectories AppHost.areaStart = ["security-harness-1"] ∧
    outcome.world.modules.map (·.name) = [.entry 1, .named "store"] ∧
    outcome.self.entry = some 1 :=
  ⟨by rfl, by decide, by rfl, by rfl⟩

end Fleet

end MockIssuer
