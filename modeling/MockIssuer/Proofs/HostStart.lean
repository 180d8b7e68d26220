import MockIssuer.Proofs.FreePorts
import MockIssuer.Proofs.ModuleLoading
import MockIssuer.Proofs.TearDown
import MockIssuer.Proofs.WorkingAreas

/-!
# What the start of a host leaves

A start makes a working area, copies the application there, loads it and binds a port, and can fail
at each of these. `Launched` says what the steps have added to the world when they end, and
`start_cases` what becomes of it: a start that fails takes it back, one that the application breaks
off leaves it, and one that succeeds makes it the host's own.
-/
namespace MockIssuer

/-- What the system refuses is told as such, and handled. -/
lemma Family.isWithin_ofSystemNumber (number : ℤ) :
    isWithin (ofSystemNumber number) "OSError" = true ∧
      isWithin (ofSystemNumber number) "Exception" = true := by
  unfold ofSystemNumber
  split <;> decide

/-- Whether a directory is at or below one on the search path. -/
def World.IsSearched (world : World) (directory : Location) : Prop :=
  ∃ entry ∈ world.searchPath, entry <+: directory

/-- Whether a module can be found along the search path of a world. -/
def World.IsStray (world : World) (module : LoadedModule) : Prop :=
  World.IsFoundIn world.files world.IsSearched module.name module.source

lemma World.IsFoundIn.exists_name {files : FileSystem} {searched : Location → Prop}
    {name : ModuleName} {source : ModuleSource} (h : World.IsFoundIn files searched name source) :
    ∃ text, name = .named text := by
  cases h
  · exact ⟨_, rfl⟩
  · exact ⟨_, rfl⟩

lemma World.IsFoundIn.exists_searched {files : FileSystem} {searched : Location → Prop}
    {name : ModuleName} {source : ModuleSource} (h : World.IsFoundIn files searched name source) :
    ∃ directory, searched directory := by
  cases h with
  | file _ _ hd => exact ⟨_, hd⟩
  | portions hne hp =>
    obtain ⟨place, hplace⟩ := List.exists_mem_of_ne_nil _ hne
    obtain ⟨-, directory, hd, -⟩ := hp place hplace
    exact ⟨directory, hd⟩

lemma World.IsFoundIn.of_file {files : FileSystem} {searched : Location → Prop}
    {name : ModuleName} {file : Location}
    (h : World.IsFoundIn files searched name (.file file)) :
    files.isFile file = true ∧ ∃ directory, searched directory ∧ directory <+: file := by
  cases h with
  | file hc hf hd => exact ⟨hf, _, hd, prefix_of_mem_candidates hc⟩

namespace AppHost

/-- Whether a module is a package without a file, one of its directories in the next working area and
the others there or along the search path. -/
def IsPackage (world : World) (module : LoadedModule) : Prop :=
  ∃ text places, module.name = .named text ∧ module.source = .portions places ∧
    (∃ place ∈ places, areaOf (world.areas + 1) <+: place) ∧
    ∀ place ∈ places, areaOf (world.areas + 1) <+: place ∨
      world.files.isDirectory place = true ∧ world.IsSearched place

lemma IsPackage.file_eq_none {world : World} {module : LoadedModule}
    (h : IsPackage world module) : module.file = none := by
  obtain ⟨_, places, -, hsource, -⟩ := h
  exact LoadedModule.file_eq_none_iff.2 ⟨places, hsource⟩

/-- A module that a start has added: the entry module, or a module under its own name, both from
files in the new working area; a package without a file; or a module that was within reach before. -/
inductive IsAdded (world : World) (module : LoadedModule) : Prop where
  | entry (hn : module.name = .entry (world.entries + 1))
    (hb : module.isBelow (areaOf (world.areas + 1)) = true)
  | sibling (text : String) (hn : module.name = .named text)
    (hb : module.isBelow (areaOf (world.areas + 1)) = true)
  | package (h : IsPackage world module)
  | stray (h : world.IsStray module)

/-- What the steps of a start have added to a sound world: the next working area, modules from there
or from the search path, and the ports that were bound. -/
structure Launched (host : AppHost) (world : World) (entry : Option ℕ) (ports : List ℕ)
    (after : World) : Prop where
  areas : after.areas = world.areas + 1
  files : after.files.removeTree (areaOf (world.areas + 1)) = world.files
  area : after.files.at? (areaOf (world.areas + 1)) = some .directory
  busyAreas : after.busyAreas = world.busyAreas
  bound : after.bound = world.bound ++ ports
  fresh : ∀ port ∈ ports, port ∉ world.bound
  loaded : ∃ added, after.modules = world.modules ++ added ∧
    ((entry = host.entry ∧ after.entries = world.entries ∧ added = []) ∨
    (entry = some (world.entries + 1) ∧ after.entries = world.entries + 1 ∧
      ∀ module ∈ added, IsAdded world module))

variable {world : World}

lemma Launched.sameState {host : AppHost} {entry : Option ℕ} {ports : List ℕ} {after last : World}
    (h : Launched host world entry ports after) (hs : after.SameState last) :
    Launched host world entry ports last := by
  obtain ⟨log, rfl⟩ := hs
  exact ⟨h.areas, h.files, h.area, h.busyAreas, h.bound, h.fresh, h.loaded⟩

lemma Launched.removalFault? {host : AppHost} {entry : Option ℕ} {ports : List ℕ} {after : World}
    (h : Launched host world entry ports after) :
    removalFault? after (areaOf (world.areas + 1)) =
      world.busyAreas.lookup (areaOf (world.areas + 1)) := by
  unfold AppHost.removalFault?
  rw [h.area, h.busyAreas]

lemma Launched.filesWithout {host : AppHost} {entry : Option ℕ} {ports : List ℕ} {after : World}
    (h : Launched host world entry ports after) :
    filesWithout after (areaOf (world.areas + 1)) =
      if (world.busyAreas.lookup (areaOf (world.areas + 1))).isSome then after.files
      else world.files := by
  unfold AppHost.filesWithout
  rw [h.removalFault?, h.files]

lemma Launched.modules {host : AppHost} {entry : Option ℕ} {ports : List ℕ} {after : World}
    (h : Launched host world entry ports after) : ∃ added, after.modules = world.modules ++ added ∧
    ∀ module ∈ added, IsAdded world module := by
  obtain ⟨added, hmodules, ⟨-, -, rfl⟩ | ⟨-, -, hadded⟩⟩ := h.loaded
  · exact ⟨[], hmodules, by simp⟩
  · exact ⟨added, hmodules, hadded⟩

lemma Launched.bind {host : AppHost} {entry : Option ℕ} {after bound last : World} {name : String}
    {requested : ℤ} {number : ℕ} (h : Launched host world entry [] after)
    (hb : after.bind name requested = (.ok number, bound)) (hs : bound.SameState last) :
    Launched host world entry [number] last := by
  obtain ⟨hfresh, next, rfl⟩ := World.bind_ok hb
  obtain ⟨log, rfl⟩ := hs
  have hbound : after.bound = world.bound := by
    rw [h.bound, List.append_nil]
  refine ⟨h.areas, h.files, h.area, h.busyAreas, ?_, fun other ho => ?_, h.loaded⟩
  · simp only [hbound]
  · obtain rfl := List.mem_singleton.1 ho
    rwa [hbound] at hfresh

lemma write_next (hs : world.Sound) :
    (world.files.write (areaOf (world.areas + 1)) .directory).removeTree
        (areaOf (world.areas + 1)) = world.files ∧
      (world.files.write (areaOf (world.areas + 1)) .directory).at? (areaOf (world.areas + 1)) =
        some .directory := by
  constructor
  · rw [areaOf, FileSystem.removeTree_write _ (List.prefix_rfl), ← areaOf, hs.removeTree_next]
  · exact FileSystem.at?_put_self _ _ (List.cons_ne_nil _ _)

lemma copy_next (hs : world.Sound) (source : Location) {copy : Location} {files : FileSystem}
    (hc : copy = areaOf (world.areas + 1) ++ ["webapp"])
    (hf : files = (world.files.write (areaOf (world.areas + 1)) .directory).copyTree source copy) :
    files.removeTree (areaOf (world.areas + 1)) = world.files ∧
      files.at? (areaOf (world.areas + 1)) = some .directory := by
  obtain ⟨hwritten, hmade⟩ := write_next hs
  subst hf
  constructor
  · have hbelow : areaOf (world.areas + 1) <+: copy := by
      rw [hc]
      exact List.prefix_append _ _
    rw [areaOf] at hbelow hwritten ⊢
    rw [FileSystem.removeTree_copyTree _ _ hbelow]
    exact hwritten
  · refine (FileSystem.at?_copyTree _ source (by rw [hmade]; rfl) fun hp => ?_).trans hmade
    have hle := hp.length_le
    simp [hc] at hle

lemma loadApp_cases (host : AppHost) (copy : Location) (world : World)
    (hn : ∀ module ∈ world.modules, module.name ≠ .entry (world.entries + 1)) :
    ∃ entry entries added path log,
      (host.loadApp copy world).self = { host with entry := entry } ∧
      (host.loadApp copy world).world = { world with
        entries := entries, modules := world.modules ++ added, searchPath := path, log := log } ∧
      ((entry = host.entry ∧ entries = world.entries ∧ added = []) ∨
      (entry = some (world.entries + 1) ∧ entries = world.entries + 1 ∧ ∀ module ∈ added,
        world.IsLoadedFrom (moduleFile copy host.entryModule) module.name module.source)) := by
  unfold loadApp
  simp only
  split
  · exact ⟨host.entry, world.entries, [], world.searchPath, _, rfl, by rw [List.append_nil]; rfl,
      Or.inl ⟨rfl, rfl, rfl⟩⟩
  · obtain ⟨result, added, path, hload, hadded, -⟩ :=
      World.loadEntry_cases hn (moduleFile copy host.entryModule)
    rw [hload]
    refine ⟨some (world.entries + 1), world.entries + 1, added, path, world.log, ?_, ?_,
      Or.inr ⟨rfl, rfl, hadded⟩⟩
    · cases result with
      | error failure => rfl
      | ok _ =>
        simp only
        split <;> rfl
    · cases result with
      | error failure => rfl
      | ok _ =>
        simp only
        split <;> rfl

/-- A directory that can be reached from a copy in the next working area and is not there was within
reach before. -/
lemma isSearched_of_reaches {files : FileSystem} {file directory : Location}
    (hd : areaOf (world.areas + 1) <+: file.dropLast)
    (h : World.Reaches { world with areas := world.areas + 1, files := files } file directory) :
    areaOf (world.areas + 1) <+: directory ∨ world.IsSearched directory :=
  h.imp hd.trans fun ⟨entry, he, hp⟩ => ⟨entry, he, hp⟩

lemma at?_beside_next (hs : world.Sound) {files : FileSystem}
    (hf : files.removeTree (areaOf (world.areas + 1)) = world.files) {location : Location}
    (hb : ¬ areaOf (world.areas + 1) <+: location) :
    files.at? location = world.files.at? location := by
  refine FileSystem.at?_eq_of_removeTree ?_ hb
  rw [hf, hs.removeTree_next]

section Copied
variable (hs : world.Sound) {files : FileSystem} {file : Location}
  (hf : files.removeTree (areaOf (world.areas + 1)) = world.files)
  (hd : areaOf (world.areas + 1) <+: file.dropLast)
include hs hf hd

lemma isStray_of_file {module : LoadedModule} {text : String} {directory found : Location}
    (hname : module.name = .named text) (hsource : module.source = .file found)
    (hc : found ∈ candidates directory text) (hisfile : files.isFile found = true)
    (hreach : World.Reaches { world with areas := world.areas + 1, files := files } file directory)
    (hb : ¬ areaOf (world.areas + 1) <+: found) : world.IsStray module := by
  unfold World.IsStray
  rw [hname, hsource]
  refine .file hc ?_ ((isSearched_of_reaches hd hreach).resolve_left fun hnew => ?_)
  · unfold FileSystem.isFile at hisfile ⊢
    rwa [at?_beside_next hs hf hb] at hisfile
  · exact hb (hnew.trans (World.prefix_of_mem_candidates hc))

lemma isSearched_of_portion {text : String} {directory : Location}
    (hdirectory : files.isDirectory (directory ++ [text]) = true)
    (hreach : World.Reaches { world with areas := world.areas + 1, files := files } file directory)
    (hb : ¬ areaOf (world.areas + 1) <+: directory ++ [text]) :
    world.files.isDirectory (directory ++ [text]) = true ∧ world.IsSearched directory := by
  constructor
  · unfold FileSystem.isDirectory at hdirectory ⊢
    rwa [at?_beside_next hs hf hb] at hdirectory
  · exact (isSearched_of_reaches hd hreach).resolve_left fun hnew =>
      hb (hnew.trans (List.prefix_append _ _))

/-- What is loaded from a copy in the next working area is what a start may add. -/
lemma isAdded_of_isLoadedFrom {module : LoadedModule}
    (h : World.IsLoadedFrom { world with areas := world.areas + 1, files := files } file
      module.name module.source) : IsAdded world module := by
  rcases h with ⟨hname, hfile⟩ | hfound
  · refine .entry hname (LoadedModule.isBelow_iff.2
      ⟨file, LoadedModule.file_eq_some_iff.2 hfile, hd.trans ?_⟩)
    exact List.dropLast_prefix file
  generalize hname : module.name = name at hfound
  generalize hsource : module.source = source at hfound
  cases hfound with
  | @file text directory found hc hisfile hreach =>
    by_cases hb : areaOf (world.areas + 1) <+: found
    · exact .sibling text hname
        (LoadedModule.isBelow_iff.2 ⟨found, LoadedModule.file_eq_some_iff.2 hsource, hb⟩)
    · exact .stray (isStray_of_file hs hf hd hname hsource hc hisfile hreach hb)
  | @portions text places hne hall =>
    have hplaces : ∀ place ∈ places, areaOf (world.areas + 1) <+: place ∨
        world.files.isDirectory place = true ∧
          ∃ directory, world.IsSearched directory ∧ place = directory ++ [text] := by
      intro place hp
      by_cases hb : areaOf (world.areas + 1) <+: place
      · exact Or.inl hb
      · obtain ⟨hdirectory, directory, hreach, rfl⟩ := hall place hp
        obtain ⟨hold, hsearched⟩ := isSearched_of_portion hs hf hd hdirectory hreach hb
        exact Or.inr ⟨hold, directory, hsearched, rfl⟩
    by_cases hb : ∃ place ∈ places, areaOf (world.areas + 1) <+: place
    · refine .package ⟨text, places, hname, hsource, hb,
        fun place hp => (hplaces place hp).imp_right ?_⟩
      rintro ⟨hdirectory, directory, ⟨entry, he, hpre⟩, rfl⟩
      exact ⟨hdirectory, entry, he, hpre.trans (List.prefix_append _ _)⟩
    · refine .stray ?_
      unfold World.IsStray
      rw [hname, hsource]
      exact .portions hne fun place hp =>
        (hplaces place hp).resolve_left fun hnew => hb ⟨place, hp, hnew⟩

end Copied

/-- A launch that fails has added no port, and one that succeeds holds the port of its server. -/
lemma launch_cases (hs : world.Sound) (host : AppHost) (source : Location) (port : ℤ) :
    ∃ entry ports, Launched host world entry ports
        (host.launch source (areaOf (world.areas + 1)) port (makeArea world).2).world ∧
      (host.launch source (areaOf (world.areas + 1)) port (makeArea world).2).self =
        { host with entry := entry } ∧
      ((∃ failure, ports = [] ∧ (host.launch source (areaOf (world.areas + 1)) port
        (makeArea world).2).result = .error failure) ∨
      ∃ hosted server number, ports = [number] ∧ server.heldPorts = [number] ∧
        (host.launch source (areaOf (world.areas + 1)) port (makeArea world).2).result =
          .ok (hosted, server, number)) := by
  rw [makeArea_eq]
  unfold launch
  simp only
  obtain ⟨hwritten, hmade⟩ := write_next hs
  split
  · exact ⟨host.entry, [], ⟨rfl, hwritten, hmade, rfl, (List.append_nil _).symm, by simp, [],
      (List.append_nil _).symm, Or.inl ⟨rfl, rfl, rfl⟩⟩, rfl, Or.inl ⟨_, rfl, rfl⟩⟩
  set copy := areaOf (world.areas + 1) ++ ["webapp"] with hcopy
  set copied : World := { world with
    areas := world.areas + 1
    files := (world.files.write (areaOf (world.areas + 1)) .directory).copyTree source copy }
  have hcopiedFiles : copied.files =
      (world.files.write (areaOf (world.areas + 1)) .directory).copyTree source copy := rfl
  obtain ⟨hfiles, harea⟩ := copy_next hs source hcopy hcopiedFiles
  obtain ⟨entry, entries, added, path, log, hself, hworld, hentries⟩ :=
    loadApp_cases host copy copied hs.ne_next
  have hlaunched : Launched host world entry [] (host.loadApp copy copied).world := by
    rw [hworld]
    refine ⟨rfl, hfiles, harea, rfl, (List.append_nil _).symm, by simp, added, rfl,
      hentries.imp_right ?_⟩
    rintro ⟨he, hn, hloaded⟩
    refine ⟨he, hn, fun module hm => isAdded_of_isLoadedFrom hs hfiles ?_ (hloaded module hm)⟩
    rw [moduleFile, List.dropLast_concat]
    exact List.prefix_append _ _
  rcases hl : host.loadApp copy copied with ⟨failure | hosted, loaded, after⟩
  · rw [hl] at hself hlaunched
    exact ⟨entry, [], hlaunched, hself, Or.inl ⟨failure, rfl, rfl⟩⟩
  · rw [hl] at hself hlaunched
    obtain rfl : loaded = { host with entry := entry } := hself
    simp only
    have hidle : (BackgroundServer.new after.environment serverName port host.host).running =
        none := rfl
    rcases BackgroundServer.start_cases hidle after with ⟨failure, -, hstart⟩ |
      ⟨number, thread, bound, last, hbind, hstart, hsame⟩
    · rw [hstart]
      exact ⟨entry, [], hlaunched, rfl, Or.inl ⟨failure, rfl, rfl⟩⟩
    · rw [hstart]
      exact ⟨entry, [number], hlaunched.bind hbind hsame, rfl,
        Or.inr ⟨hosted, _, number, rfl, rfl, rfl⟩⟩

lemma startFailure_family (port : ℤ) (failure : Failure) :
    (startFailure port failure).family = "ResourceStartupError" := by
  unfold startFailure
  split
  · next h => exact h
  · rfl

lemma isOrdinary_of_family {failure : Failure} (h : failure.family = "ResourceStartupError") :
    failure.isOrdinary = true := by
  unfold Failure.isOrdinary
  rw [h]
  decide

lemma isOrdinary_refusedBySystem (fault : SystemFault) :
    (Failure.refusedBySystem fault).isOrdinary = true :=
  (Family.isWithin_ofSystemNumber fault.number).2

/-- What the start in an existing directory makes of its launch. -/
def StartedIn (host : AppHost) (world : World) (outcome : Outcome AppHost String) : Prop :=
  ∃ entry ports launched, Launched host world entry ports launched ∧
    ((∃ failure after, failure.isOrdinary = true ∧ ports = [] ∧
      outcome = ⟨.error failure, { host with entry := none }, after⟩ ∧
      World.SameState { launched with
        files := filesWithout launched (areaOf (world.areas + 1))
        modules := launched.modules.filter
          (!isLoadedBy entry (some (areaOf (world.areas + 1))) ·) } after) ∨
    (∃ failure, failure.isOrdinary = false ∧ ports = [] ∧
      outcome = ⟨.error failure, { host with entry := entry }, launched⟩) ∨
    ∃ url hosted server number, ports = [number] ∧ server.heldPorts = [number] ∧
      outcome = ⟨.ok url, { host with
        server := some server
        hosted := hosted
        workingArea := some (areaOf (world.areas + 1))
        entry := entry
        boundPort := some number }, launched⟩)

/-- A start in an existing directory fails and takes back what it has added, or the application
breaks it off, or it succeeds. -/
lemma startIn_cases (hs : world.Sound) (host : AppHost) (source : Location) (text : String)
    (port : ℤ) : host.StartedIn world (host.startIn source text port world) := by
  obtain ⟨entry, ports, hlaunched, hself, hresult⟩ := launch_cases hs host source port
  unfold startIn
  rw [makeArea_eq] at *
  simp only
  rcases hl : host.launch source (areaOf (world.areas + 1)) port { world with
      areas := world.areas + 1
      files := world.files.write (areaOf (world.areas + 1)) .directory } with
    ⟨failure | ⟨hosted, server, number⟩, made, launched⟩
  · rw [hl] at hlaunched hself hresult
    obtain rfl : made = { host with entry := entry } := hself
    obtain rfl : ports = [] := by
      rcases hresult with ⟨_, hports, -⟩ | ⟨_, _, _, -, -, hok⟩
      · exact hports
      · cases hok
    cases ho : failure.isOrdinary with
    | true =>
      simp only [ho, if_true]
      obtain ⟨unloaded, hunload, log, rfl⟩ := unloadModules_eq { host with entry := entry }
        (some (areaOf (world.areas + 1))) launched
      rw [hunload]
      exact ⟨entry, [], launched, hlaunched, Or.inl ⟨startFailure port failure, _,
        isOrdinary_of_family (startFailure_family port failure), rfl, rfl,
        World.SameState.emit ⟨log, rfl⟩ _ _ _⟩⟩
    | false =>
      simp only [ho, Bool.false_eq_true, if_false]
      exact ⟨entry, [], launched, hlaunched, Or.inr (Or.inl ⟨failure, ho, rfl, rfl⟩)⟩
  · rw [hl] at hlaunched hself hresult
    obtain rfl : made = { host with entry := entry } := hself
    rcases hresult with ⟨_, -, herror⟩ | ⟨_, _, _, hports, hheld, hok⟩
    · cases herror
    · obtain ⟨rfl, rfl, rfl⟩ : hosted = _ ∧ server = _ ∧ number = _ := by
        injection hok with hpair
        injection hpair with h1 h2
        injection h2 with h2 h3
        exact ⟨h1, h2, h3⟩
      refine ⟨entry, ports, _, ?_, Or.inr (Or.inr ⟨_, _, _, _, hports, hheld, rfl⟩)⟩
      exact hlaunched.sameState ((World.SameState.refl launched).emit _ _ _)

lemma look_eq_some {directory : Path} {text : String} {source : Location}
    (h : look world directory text = .ok (some source)) :
    world.files.find? World.currentLocation directory = .ok source ∧
      world.files.isDirectory source = true := by
  unfold look at h
  split_ifs at h with hnul hlong
  · cases h
  · split at h
    · cases h
    · cases h
    · cases h
    · next found _ hfound =>
      split_ifs at h with hd
      · cases h
        exact ⟨hfound, hd⟩
      · cases h

/-- How a start shows its directory. -/
def shown (directory : Path) : String :=
  ((World.pathOf World.currentLocation).resolveFrom directory).text

/-- The directory that a start copies, if the host can be started, the path leads to a directory and
a working area can be made. -/
def source? (host : AppHost) (directory : Path) (world : World) : Option Location :=
  match host.server, look world directory (shown directory), world.areaFault with
  | none, .ok found, none => found
  | _, _, _ => none

lemma source?_eq_some {host : AppHost} {directory : Path} {source : Location}
    (h : host.source? directory world = some source) : host.server = none ∧
      look world directory (shown directory) = .ok (some source) ∧ world.areaFault = none := by
  unfold source? at h
  split at h
  · next hserver hlook hfault =>
    subst h
    exact ⟨hserver, hlook, hfault⟩
  · cases h

lemma start_of_source? {host : AppHost} {directory : Path} {source : Location}
    (h : host.source? directory world = some source) (port : ℤ) :
    host.start directory port world = host.startIn source (shown directory) port world := by
  obtain ⟨hserver, hlook, hfault⟩ := source?_eq_some h
  unfold start
  unfold shown at hlook
  simp only [hserver, hlook, hfault]
  rfl

lemma start_of_source?_eq_none {host : AppHost} {directory : Path}
    (h : host.source? directory world = none) (port : ℤ) :
    ∃ failure after, failure.isOrdinary = true ∧
      host.start directory port world = ⟨.error failure, host, after⟩ ∧ world.SameState after := by
  unfold start
  by_cases hserver : host.server.isSome = true
  · rw [if_pos hserver]
    refine ⟨_, _, ?_, rfl, .refl world⟩
    change Family.isWithin "HarnessStateError" "Exception" = true
    decide
  · rw [if_neg hserver]
    simp only
    split
    · exact ⟨_, _, isOrdinary_refusedBySystem _, rfl, .refl world⟩
    · exact ⟨_, _, isOrdinary_of_family rfl, rfl, (World.SameState.refl world).emit _ _ _⟩
    · exact ⟨_, _, isOrdinary_refusedBySystem _, rfl, .refl world⟩
    · next hlook hfault =>
      have hidle : host.server = none := by simpa using hserver
      unfold source? shown at h
      simp only [hidle, hlook, hfault] at h
      cases h

/-- A start is refused and nothing has happened, or there is a directory to start in. -/
lemma start_startIn (host : AppHost) (directory : Path) (port : ℤ) (world : World) :
    (∃ failure after, failure.isOrdinary = true ∧
      host.start directory port world = ⟨.error failure, host, after⟩ ∧ world.SameState after) ∨
    host.server = none ∧ ∃ source text,
      world.files.find? World.currentLocation directory = .ok source ∧
      world.files.isDirectory source = true ∧
      host.start directory port world = host.startIn source text port world := by
  cases hsource : host.source? directory world with
  | none => exact Or.inl (start_of_source?_eq_none hsource port)
  | some source =>
    obtain ⟨hserver, hlook, -⟩ := source?_eq_some hsource
    obtain ⟨hfound, hd⟩ := look_eq_some hlook
    exact Or.inr ⟨hserver, source, _, hfound, hd, start_of_source? hsource port⟩

/-- A start that succeeds has launched the application in an existing directory, and holds what was
launched. -/
lemma start_ok {host : AppHost} {directory : Path} {port : ℤ} {world : World} {url : String}
    (h : (host.start directory port world).result = .ok url) :
    ∃ source hosted server bound log, host.source? directory world = some source ∧
      (host.launch source (areaOf (world.areas + 1)) port (makeArea world).2).result =
        .ok (hosted, server, bound) ∧
      (host.start directory port world).self =
        { (host.launch source (areaOf (world.areas + 1)) port (makeArea world).2).self with
          server := some server
          hosted := hosted
          workingArea := some (areaOf (world.areas + 1))
          boundPort := some bound } ∧
      (host.start directory port world).world =
        { (host.launch source (areaOf (world.areas + 1)) port (makeArea world).2).world with
          log := log } := by
  cases hsource : host.source? directory world with
  | none =>
    obtain ⟨_, _, -, hstart, -⟩ := start_of_source?_eq_none hsource port
    rw [hstart] at h
    cases h
  | some source =>
    rw [start_of_source? hsource port] at h ⊢
    unfold startIn at h ⊢
    rw [makeArea_eq] at *
    simp only at h ⊢
    rcases hlaunch : host.launch source (areaOf (world.areas + 1)) port { world with
        areas := world.areas + 1
        files := world.files.write (areaOf (world.areas + 1)) .directory } with
      ⟨failure | ⟨hosted, server, bound⟩, made, launched⟩
    · rw [hlaunch] at h
      simp only at h
      split_ifs at h
    · exact ⟨source, hosted, server, bound, _, rfl, by rw [hlaunch], by rw [hlaunch],
        by rw [hlaunch]; rfl⟩

/-- All that a start in a sound world can come to: it is refused and nothing has happened, or there
is a directory to start in. -/
theorem start_cases (hs : world.Sound) (host : AppHost) (directory : Path) (port : ℤ) :
    (∃ failure after, failure.isOrdinary = true ∧
      host.start directory port world = ⟨.error failure, host, after⟩ ∧ world.SameState after) ∨
    host.server = none ∧ host.StartedIn world (host.start directory port world) := by
  refine (host.start_startIn directory port world).imp_right ?_
  rintro ⟨hn, source, text, -, -, hstart⟩
  rw [hstart]
  exact ⟨hn, startIn_cases hs host source text port⟩

end AppHost

end MockIssuer
