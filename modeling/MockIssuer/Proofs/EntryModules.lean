import MockIssuer.Proofs.FailedSetup
import MockIssuer.Proofs.LocalUrl

/-!
# One entry module for each start

A module is known by its name and the place that it came from. Whatever an application imports
while it is loaded comes and goes under a plain name, so loading adds to the modules that web
applications start from just the one that it is about. A start that succeeds therefore registers one
entry module if the application has one, and none for a static site (`start_registers`).
-/
namespace MockIssuer

/-- What a module is known by: its name and the place that it came from. -/
def LoadedModule.origin (module : LoadedModule) : ModuleName × ModuleSource :=
  (module.name, module.source)

namespace ModuleTable

/-- What the modules are known by that web applications start from. -/
def entryOrigins (modules : ModuleTable) : List (ModuleName × ModuleSource) :=
  modules.entries.map (·.origin)

lemma entryOrigins_append (first second : ModuleTable) :
    entryOrigins (first ++ second) = first.entryOrigins ++ second.entryOrigins := by
  simp only [entryOrigins, entries, List.filter_append, List.map_append]

lemma entryOrigins_of_named {modules : ModuleTable}
    (h : ∀ module ∈ modules, ∃ text, module.name = .named text) : modules.entryOrigins = [] := by
  have hnone : modules.entries = [] := List.filter_eq_nil_iff.2 fun module hm => by
    obtain ⟨text, hname⟩ := h module hm
    simp [LoadedModule.isEntry, hname]
  rw [entryOrigins, hnone, List.map_nil]

lemma entryOrigins_define (modules : ModuleTable) (name : ModuleName)
    (names : List (String × Bound)) :
    (modules.define name names).entryOrigins = modules.entryOrigins := by
  let edit (module : LoadedModule) : LoadedModule :=
    if module.name = name then { module with names := names } else module
  have hentry : LoadedModule.isEntry ∘ edit = LoadedModule.isEntry := by
    funext module
    by_cases h : module.name = name <;> simp [edit, h, LoadedModule.isEntry]
  have horigin : LoadedModule.origin ∘ edit = LoadedModule.origin := by
    funext module
    by_cases h : module.name = name <;> simp [edit, h, LoadedModule.origin]
  change ((modules.map edit).filter LoadedModule.isEntry).map LoadedModule.origin = _
  rw [List.filter_map, List.map_map, hentry, horigin]
  rfl

lemma entryOrigins_filter {p : LoadedModule → Bool} {q : ModuleName × ModuleSource → Bool}
    (h : ∀ module, p module = q module.origin) (modules : ModuleTable) :
    entryOrigins (modules.filter p) = modules.entryOrigins.filter q := by
  have hcomp : p = q ∘ (·.origin) := funext h
  rw [entryOrigins, entries, List.filter_comm, entryOrigins, entries, List.filter_map, hcomp]

end ModuleTable

namespace World

lemma importModule_entryOrigins (fuel : ℕ) (world : World) (name : String) :
    (importModule fuel world name).2.modules.entryOrigins = world.modules.entryOrigins := by
  have himports : IsLoading.Imports world (fun name _ => ∃ text, name = .named text)
      (fun _ => True) fuel :=
    (IsLoading.runs_and_imports (fun _ _ _ => trivial) (fun _ _ h => h.exists_name) fuel).2
  obtain ⟨added, path, hafter, hadded, -⟩ := himports world name
    ⟨[], world.searchPath, by rw [List.append_nil], by simp, fun _ _ => trivial⟩
  rw [hafter, ModuleTable.entryOrigins_append, ModuleTable.entryOrigins_of_named hadded,
    List.append_nil]

lemma runSteps_entryOrigins (fuel : ℕ) (world : World) (module : ModuleName)
    (directory : Location) (ending : Ending) (imported : List (Option Json))
    (steps : List LoadStep) :
    (runSteps fuel world module directory ending imported steps).2.modules.entryOrigins =
      world.modules.entryOrigins := by
  induction fuel generalizing world imported steps with
  | zero => rw [runSteps]
  | succ fuel ih =>
    cases steps with
    | nil =>
      rw [runSteps]
      · cases ending with
        | raises family message => rfl
        | defines names => exact ModuleTable.entryOrigins_define _ _ _
      · simp
    | cons step rest =>
      cases step with
      | importModule name =>
        have himport := importModule_entryOrigins fuel world name
        rw [runSteps]
        rcases hi : importModule fuel world name with ⟨failure | value, left⟩
        · rw [hi] at himport
          exact himport
        · rw [hi] at himport
          exact (ih left _ rest).trans himport
      | leavePath =>
        rw [runSteps]
        exact ih (world.leavePath directory) imported rest
      | enterPath position =>
        rw [runSteps]
        exact ih (world.enterPath position directory) imported rest

/-- Loading an entry module registers this one. -/
theorem loadEntry_entryOrigins (world : World) (file : Location) :
    (world.loadEntry file).2.2.modules.entryOrigins =
      world.modules.entryOrigins ++ [(.entry (world.entries + 1), .file file)] :=
  (runSteps_entryOrigins _ _ _ _ _ _ _).trans (ModuleTable.entryOrigins_append _ _)

end World

/-- The world with a copy of a directory in a working area. -/
def World.copyInto (world : World) (source area : Location) : World :=
  { world with files := world.files.copyTree source (area ++ ["webapp"]) }

namespace AppHost

/-- Where the next host copies its application. -/
def nextCopy (world : World) : Location := areaOf (world.areas + 1) ++ ["webapp"]

/-- The file of the entry module in a working area. -/
def entryFile (host : AppHost) (area : ℕ) : Location :=
  moduleFile (areaOf area ++ ["webapp"]) host.entryModule

lemma areaOf_prefix_entryFile (host : AppHost) (area : ℕ) : areaOf area <+: host.entryFile area :=
  (List.prefix_append _ _).trans (List.prefix_append _ _)

/-- What the loading of a host has registered, with the entry module in a file if there is one. -/
structure Registers (host : AppHost) (file : Location) (hasEntry : Bool) (world : World)
    (entry : Option ℕ) (after : World) : Prop where
  origins : after.modules.entryOrigins = world.modules.entryOrigins ++
    if hasEntry then [(.entry (world.entries + 1), .file file)] else []
  entry : entry = if hasEntry then some (world.entries + 1) else host.entry

variable {host : AppHost} {world : World}

lemma loadApp_registers (host : AppHost) (copy : Location)
    (hn : ∀ module ∈ world.modules, module.name ≠ .entry (world.entries + 1)) :
    host.Registers (moduleFile copy host.entryModule)
      (world.files.isFile (moduleFile copy host.entryModule)) world
      (host.loadApp copy world).self.entry (host.loadApp copy world).world ∧
    (host.loadApp copy world).world.files = world.files := by
  unfold loadApp
  simp only
  by_cases hfile : world.files.isFile (moduleFile copy host.entryModule) = true
  · have horigins := world.loadEntry_entryOrigins (moduleFile copy host.entryModule)
    obtain ⟨result, added, path, hload, -⟩ :=
      World.loadEntry_cases hn (moduleFile copy host.entryModule)
    rw [hload] at horigins ⊢
    have hregisters : host.Registers (moduleFile copy host.entryModule) true world
        (some (world.entries + 1)) { world with
          entries := world.entries + 1, modules := world.modules ++ added, searchPath := path } :=
      ⟨horigins, rfl⟩
    rw [hfile, if_neg (by simp)]
    cases result with
    | error failure => exact ⟨hregisters, rfl⟩
    | ok _ =>
      simp only
      split
      · exact ⟨hregisters, rfl⟩
      · exact ⟨hregisters, rfl⟩
  · rw [Bool.not_eq_true] at hfile
    rw [hfile, Bool.not_false, if_pos rfl]
    exact ⟨⟨(List.append_nil _).symm, rfl⟩, rfl⟩

/-- A launch that can read the directory does what the loading of the copy does, and then binds a
port or not. -/
lemma launch_of_readable {source : Location} (h : world.unreadable.lookup source = none)
    (host : AppHost) (area : Location) (port : ℤ) : ∃ bound next log,
      (host.launch source area port world).self =
        (host.loadApp (area ++ ["webapp"]) (world.copyInto source area)).self ∧
      (host.launch source area port world).world =
        { (host.loadApp (area ++ ["webapp"]) (world.copyInto source area)).world with
          bound := bound, nextPort := next, log := log } := by
  unfold launch
  simp only [World.copyInto, h]
  rcases host.loadApp (area ++ ["webapp"])
    { world with files := world.files.copyTree source (area ++ ["webapp"]) } with
    ⟨failure | hosted, loaded, after⟩
  · exact ⟨after.bound, after.nextPort, after.log, rfl, rfl⟩
  · have hidle : (BackgroundServer.new after.environment serverName port loaded.host).running =
        none := rfl
    simp only
    rcases BackgroundServer.start_cases hidle after with ⟨failure, -, hstart⟩ |
      ⟨number, thread, bound, last, hbind, hstart, log, rfl⟩
    · rw [hstart]
      exact ⟨after.bound, after.nextPort, after.log, rfl, rfl⟩
    · rw [hstart]
      obtain ⟨-, next, rfl⟩ := World.bind_ok hbind
      exact ⟨_, next, log, rfl, rfl⟩

lemma launch_of_unreadable {source : Location} {fault : SystemFault}
    (h : world.unreadable.lookup source = some fault) (host : AppHost) (area : Location)
    (port : ℤ) :
    host.launch source area port world = ⟨.error (.refusedBySystem fault), host, world⟩ := by
  unfold launch
  rw [h]

/-- A launch cannot read the directory and does nothing, or does what the loading of the copy does,
and then binds a port or not. -/
lemma launch_load (host : AppHost) (source area : Location) (port : ℤ) (world : World) :
    ((host.launch source area port world).result.isOk = false ∧
      (host.launch source area port world).self = host ∧
      (host.launch source area port world).world = world) ∨
    ∃ bound next log,
      (host.launch source area port world).self =
        (host.loadApp (area ++ ["webapp"]) (world.copyInto source area)).self ∧
      (host.launch source area port world).world =
        { (host.loadApp (area ++ ["webapp"]) (world.copyInto source area)).world with
          bound := bound, nextPort := next, log := log } := by
  cases h : world.unreadable.lookup source with
  | some fault =>
    rw [launch_of_unreadable h]
    exact Or.inl ⟨rfl, rfl, rfl⟩
  | none => exact Or.inr (launch_of_readable h host area port)

lemma launch_ok {source area : Location} {port : ℤ} {hosted : Hosted} {server : BackgroundServer}
    {bound : ℕ} (h : (host.launch source area port world).result = .ok (hosted, server, bound)) :
    world.unreadable.lookup source = none ∧
    (host.loadApp (area ++ ["webapp"]) (world.copyInto source area)).result = .ok hosted ∧
    ∃ ports next log, (host.launch source area port world).world =
      { (host.loadApp (area ++ ["webapp"]) (world.copyInto source area)).world with
        bound := ports, nextPort := next, log := log } := by
  cases hreadable : world.unreadable.lookup source with
  | some fault =>
    rw [launch_of_unreadable hreadable] at h
    cases h
  | none =>
    obtain ⟨ports, next, log, -, hworld⟩ := launch_of_readable hreadable host area port
    refine ⟨rfl, ?_, ports, next, log, hworld⟩
    unfold launch at h
    simp only [hreadable] at h
    split at h
    · cases h
    · next loaded _ _ hload =>
      split at h
      · cases h
      · obtain ⟨rfl, -⟩ := Prod.mk.inj (Except.ok.inj h)
        exact congrArg Outcome.result hload

/-- A launch registers what the loading of the application does. If it succeeds, there is an entry
module just if the copy of the application has one. -/
lemma launch_registers (hs : world.Sound) (host : AppHost) (source : Location) (port : ℤ) :
    ∃ hasEntry, host.Registers (host.entryFile (world.areas + 1)) hasEntry world
        (host.launch source (areaOf (world.areas + 1)) port (makeArea world).2).self.entry
        (host.launch source (areaOf (world.areas + 1)) port (makeArea world).2).world ∧
      ∀ made, (host.launch source (areaOf (world.areas + 1)) port (makeArea world).2).result =
        .ok made → hasEntry = FileSystem.isFile
          (host.launch source (areaOf (world.areas + 1)) port (makeArea world).2).world.files
          (host.entryFile (world.areas + 1)) := by
  rcases host.launch_load source (areaOf (world.areas + 1)) port (makeArea world).2 with
    ⟨hfails, hself, hworld⟩ | ⟨bound, next, log, hself, hworld⟩
  · rw [hself, hworld]
    refine ⟨false, ⟨(List.append_nil _).symm, rfl⟩, fun made hmade => ?_⟩
    rw [hmade] at hfails
    cases hfails
  · have hfresh :
        ∀ module ∈ ((makeArea world).2.copyInto source (areaOf (world.areas + 1))).modules,
          module.name ≠ .entry (world.entries + 1) := hs.ne_next
    obtain ⟨⟨horigins, hentry⟩, hfiles⟩ :=
      loadApp_registers host (areaOf (world.areas + 1) ++ ["webapp"]) hfresh
    rw [hself, hworld]
    refine ⟨_, ⟨horigins, hentry⟩, fun _ _ => ?_⟩
    simp only [hfiles, entryFile]

/-- What becomes of a launch does not change the search path, and adds no files. -/
lemma startIn_searchPath (host : AppHost) (source : Location) (text : String) (port : ℤ)
    (world : World) : (host.startIn source text port world).world.searchPath =
        (host.launch source (makeArea world).1 port (makeArea world).2).world.searchPath ∧
      ∀ pair ∈ (host.startIn source text port world).world.files,
        pair ∈ (host.launch source (makeArea world).1 port (makeArea world).2).world.files := by
  unfold startIn
  simp only
  rcases host.launch source (makeArea world).1 port (makeArea world).2 with
    ⟨failure | ⟨hosted, server, number⟩, made, launched⟩
  · simp only
    split
    · obtain ⟨unloaded, hunload, log, rfl⟩ :=
        unloadModules_eq made (some (makeArea world).1) launched
      rw [hunload]
      exact ⟨rfl, fun pair hpair => mem_of_mem_filesWithout hpair⟩
    · exact ⟨rfl, fun pair hpair => hpair⟩
  · exact ⟨rfl, fun pair hpair => hpair⟩

/-- A start that succeeds has registered an entry module just if the copy of the application has
one. -/
theorem start_registers (hs : world.Sound) {host : AppHost} {directory : Path} {port : ℤ}
    {url : String} (h : (host.start directory port world).result = .ok url) :
    host.Registers (host.entryFile (world.areas + 1))
      ((host.start directory port world).world.files.isFile (host.entryFile (world.areas + 1)))
      world (host.start directory port world).self.entry
      (host.start directory port world).world := by
  obtain ⟨source, hosted, server, bound, log, -, hlaunch, hself, hworld⟩ := start_ok h
  obtain ⟨hasEntry, hregisters, hfile⟩ := launch_registers hs host source port
  obtain rfl := hfile _ hlaunch
  rw [hself, hworld]
  exact ⟨hregisters.origins, hregisters.entry⟩

end AppHost

end MockIssuer
