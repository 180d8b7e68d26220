import MockIssuer.Proofs.Holdings
import MockIssuer.Proofs.HarnessLifecycle

/-!
# Every act leaves alone what others hold

One rule for each act on a server, a mock server, a host and a harness: it leads from what the
object held to what it holds then, and preserves what is held beside it. A harness is taken apart
into its host and its mock server, and its operations into theirs.
-/
namespace MockIssuer
open Holdings (Preserves Moves)

namespace BackgroundServer

def holdings (server : BackgroundServer) : Holdings := ⟨server.heldPorts, []⟩

lemma start_preserves (server : BackgroundServer) {world : World} (hs : world.Sound) :
    Preserves server.holdings world (server.start world).self.holdings
      (server.start world).world := by
  by_cases hr : server.running.isSome = true
  · rw [start_of_isSome hr]
    exact .refl hs
  · have hnone : server.running = none := by simpa using hr
    rcases start_cases hnone world with ⟨failure, -, hstart⟩ |
      ⟨port, thread, bound, last, hbind, hstart, hsame⟩
    · rw [hstart]
      exact .refl hs
    · rw [hstart]
      obtain ⟨hfresh, next, rfl⟩ := World.bind_ok hbind
      obtain ⟨log, rfl⟩ := hsame
      have hports : server.heldPorts = [] := by simp [heldPorts, hnone]
      rw [holdings, hports]
      exact .of_rebinds ⟨hs.files, hs.modules, hs.entries⟩ rfl rfl rfl
        (Holdings.rebinds_bind hfresh rfl)

lemma stopped_heldPorts (server : BackgroundServer) : server.stopped.heldPorts = [] := by
  unfold stopped heldPorts
  cases server.running with
  | none => rfl
  | some running => rfl

lemma stop_preserves (server : BackgroundServer) {world : World} (hs : world.Sound) :
    Preserves server.holdings world (server.stop world).self.holdings
      (server.stop world).world := by
  rcases stop_cases server world with ⟨failure, hstop⟩ | ⟨result, world', hstop, log, rfl⟩
  · rw [hstop]
    exact .refl hs
  · rw [hstop, holdings, holdings, stopped_heldPorts]
    exact .of_rebinds ⟨hs.files, hs.modules, hs.entries⟩ rfl rfl rfl
      (Holdings.rebinds_release rfl)

lemma drift_heldPorts {server : BackgroundServer} {running : Running} (thread : Thread)
    (hr : server.running = some running) :
    heldPorts { server with running := some { running with thread := thread } } =
      server.heldPorts := by
  simp only [heldPorts, hr]

lemma Act.preserves {server after : BackgroundServer} {world world' : World} (hs : world.Sound)
    (h : Act server world after world') :
    Preserves server.holdings world after.holdings world' := by
  cases h with
  | start => exact start_preserves server hs
  | stop => exact stop_preserves server hs
  | drift running thread hr =>
    rw [holdings, holdings, drift_heldPorts thread hr]
    exact .refl hs

end BackgroundServer

namespace MockServer

def holdings (mock : MockServer) : Holdings := mock.server.holdings

lemma start_preserves (mock : MockServer) {world : World} (hs : world.Sound) :
    Preserves mock.holdings world (mock.start world).self.holdings (mock.start world).world := by
  have hserver := BackgroundServer.start_preserves mock.server hs
  unfold start
  rcases hstart : mock.server.start world with ⟨failure | port, server, world'⟩
  · rw [hstart] at hserver
    exact hserver
  · rw [hstart] at hserver
    exact hserver.emit _ _ _

lemma stop_preserves (mock : MockServer) {world : World} (hs : world.Sound) :
    Preserves mock.holdings world (mock.stop world).self.holdings (mock.stop world).world := by
  have hserver := BackgroundServer.stop_preserves mock.server hs
  unfold stop
  rcases hstop : mock.server.stop world with ⟨failure | port, server, world'⟩
  · rw [hstop] at hserver
    exact hserver
  · rw [hstop] at hserver
    exact hserver.emit _ _ _

lemma Act.preserves {mock after : MockServer} {world world' : World} (hs : world.Sound)
    (h : Act mock world after world') : Preserves mock.holdings world after.holdings world' := by
  cases h with
  | start => exact start_preserves mock hs
  | stop => exact stop_preserves mock hs
  | drift _ running thread hr =>
    have hports := BackgroundServer.drift_heldPorts thread hr
    unfold holdings BackgroundServer.holdings
    rw [hports]
    exact .refl hs
  | use _ _ log hu =>
    unfold holdings
    rw [hu.cases_stubs.1]
    exact .of_sameState hs ⟨log, rfl⟩

end MockServer

namespace AppHost

/-- The entry module and the working area of a host. -/
def footprint (host : AppHost) : Footprint := ⟨host.entry, host.workingArea⟩

def holdings (host : AppHost) : Holdings := ⟨host.heldPorts, [host.footprint]⟩

variable {host : AppHost} {world after : World} {entry : Option ℕ} {ports : List ℕ}

lemma IsAdded.isNew {module : LoadedModule} (h : IsAdded world module) :
    Holdings.IsNew world module := by
  cases h with
  | entry hn hb => exact .entry _ _ hn (by omega) (by omega) hb
  | sibling text hn hb => exact .sibling text hn
  | package hpackage =>
    obtain ⟨text, _, hn, -⟩ := hpackage
    exact .sibling text hn
  | stray hstray =>
    obtain ⟨text, hn⟩ := hstray.exists_name
    exact .sibling text hn

lemma IsAdded.le_areas {module : LoadedModule} (hs : world.Sound) (h : IsAdded world module)
    {number : ℕ} (hb : module.isBelow (areaOf number) = true) : number ≤ world.areas + 1 := by
  cases h with
  | entry _ hbelow => rw [LoadedModule.eq_of_isBelow hb hbelow]
  | sibling _ _ hbelow => rw [LoadedModule.eq_of_isBelow hb hbelow]
  | package hpackage =>
    obtain ⟨_, _, -, hsource, -⟩ := hpackage
    obtain ⟨file, hfile, -⟩ := LoadedModule.isBelow_iff.1 hb
    cases (LoadedModule.file_eq_some_iff.1 hfile).symm.trans hsource
  | stray hstray =>
    obtain ⟨file, hfile, hp⟩ := LoadedModule.isBelow_iff.1 hb
    unfold World.IsStray at hstray
    rw [LoadedModule.file_eq_some_iff.1 hfile] at hstray
    obtain ⟨pair, hpair, he⟩ := FileSystem.exists_mem_of_isFile hstray.of_file.1
    have hle := hs.files pair hpair number (by rw [he]; exact hp)
    omega

lemma IsAdded.eq_of_entry {module : LoadedModule} (h : IsAdded world module) {number : ℕ}
    (hn : module.name = .entry number) : number = world.entries + 1 := by
  cases h with
  | entry hname _ =>
    rw [hname] at hn
    injection hn with he
    exact he.symm
  | sibling _ hname _ =>
    rw [hname] at hn
    cases hn
  | package hpackage =>
    obtain ⟨_, _, hname, -⟩ := hpackage
    rw [hname] at hn
    cases hn
  | stray hstray =>
    obtain ⟨text, hname⟩ := hstray.exists_name
    rw [hname] at hn
    cases hn

lemma Launched.sound (h : Launched host world entry ports after) (hs : world.Sound) :
    after.Sound := by
  obtain ⟨added, hmodules, hentries⟩ := h.loaded
  refine ⟨?_, fun module hm number hb => ?_, fun module hm number hn => ?_⟩
  · rw [h.areas]
    exact hs.files_of_removeTree h.files
  · rw [h.areas]
    rw [hmodules] at hm
    rcases List.mem_append.1 hm with hold | hnew
    · have hle := hs.modules module hold number hb
      omega
    · rcases hentries with ⟨-, -, rfl⟩ | ⟨-, -, hadded⟩
      · cases hnew
      · exact (hadded module hnew).le_areas hs hb
  · rw [hmodules] at hm
    rcases hentries with ⟨-, he, rfl⟩ | ⟨-, he, hadded⟩
    · rw [List.append_nil] at hm
      rw [he]
      exact hs.entries module hm number hn
    · rw [he]
      rcases List.mem_append.1 hm with hold | hnew
      · have hle := hs.entries module hold number hn
        omega
      · rw [(hadded module hnew).eq_of_entry hn]

/-- A launch moves the host to an entry module of its own, and to the new working area or not. -/
lemma Launched.moves (h : Launched host world entry ports after) (hs : world.Sound)
    {area : Option Location}
    (ha : area = host.workingArea ∨ area = some (areaOf (world.areas + 1))) :
    Moves host.footprint world ⟨entry, area⟩ after := by
  obtain ⟨added, hmodules, hadded⟩ := h.modules
  obtain ⟨_, _, hentries⟩ := h.loaded
  refine ⟨h.sound hs, by rw [h.areas]; omega, ?_, fun number hn => ?_, fun other ho => ?_,
    fun module hm => ?_⟩
  · rcases hentries with ⟨-, he, -⟩ | ⟨-, he, -⟩ <;> omega
  · rcases hentries with ⟨rfl, -, -⟩ | ⟨rfl, he, -⟩
    · exact Or.inl hn
    · obtain rfl := Option.mem_some.1 hn
      exact Or.inr ⟨by omega, by omega⟩
  · rcases ha with rfl | rfl
    · exact Or.inl ho
    · obtain rfl := Option.mem_some.1 ho
      exact Or.inr ⟨_, by omega, by rw [h.areas], rfl⟩
  · rw [hmodules] at hm
    exact (List.mem_append.1 hm).imp_right fun hnew => (hadded module hnew).isNew

lemma mem_of_mem_filesWithout {area : Location} {pair : Location × Entry}
    (h : pair ∈ filesWithout world area) : pair ∈ world.files := by
  unfold filesWithout at h
  split at h
  · exact h
  · exact (FileSystem.mem_removeTree.1 h).1

lemma start_preserves (host : AppHost) (directory : Path) (port : ℤ) (hs : world.Sound) :
    Preserves host.holdings world (host.start directory port world).self.holdings
      (host.start directory port world).world := by
  rcases start_cases hs host directory port with
    ⟨failure, last, -, hstart, hsame⟩ | ⟨hserver, entry, ports, launched, hl, hcases⟩
  · rw [hstart]
    exact .of_sameState hs hsame
  have hports : host.heldPorts = [] := by simp [heldPorts, hserver]
  rcases hcases with ⟨failure, last, -, rfl, hstart, hsame⟩ | ⟨failure, -, rfl, hstart⟩ |
    ⟨url, hosted, server, number, rfl, hheld, hstart⟩
  · set taken : World := { launched with
      files := filesWithout launched (areaOf (world.areas + 1))
      modules := launched.modules.filter (!isLoadedBy entry (some (areaOf (world.areas + 1))) ·) }
    have hsound : taken.Sound := by
      refine (hl.sound hs).mono le_rfl le_rfl (fun pair hpair => ?_)
        fun module hm => List.mem_of_mem_filter hm
      exact mem_of_mem_filesWithout hpair
    have hmoves : Moves host.footprint world ⟨none, host.workingArea⟩ taken :=
      (hl.moves hs (Or.inl rfl)).mono hsound rfl rfl (fun module hm => List.mem_of_mem_filter hm)
        (fun number hn => by cases hn) fun area ha => ha
    have hbound : taken.bound = world.bound := by
      rw [← List.append_nil world.bound]
      exact hl.bound
    rw [hstart]
    exact (hmoves.preserves hs (Holdings.rebinds_refl _ hbound)).sameState hsame
  · rw [hstart]
    refine (hl.moves hs (Or.inl rfl)).preserves hs (Holdings.rebinds_refl _ ?_)
    rw [hl.bound, List.append_nil]
  · rw [hstart]
    have hmoves := hl.moves hs (Or.inr rfl)
    have hlast : heldPorts { host with
        server := some server
        hosted := hosted
        workingArea := some (areaOf (world.areas + 1))
        entry := entry
        boundPort := some number } = [number] := hheld
    rw [holdings, holdings, hports, hlast]
    exact hmoves.preserves hs
      (Holdings.rebinds_bind (hl.fresh number (List.mem_singleton_self _)) hl.bound)

lemma stopped_heldPorts (host : AppHost) : host.stopped.heldPorts = [] := by
  unfold stopped heldPorts
  cases host.server with
  | none => rfl
  | some server => exact server.stopped_heldPorts

lemma mem_of_mem_clearedFiles {host : AppHost} {pair : Location × Entry}
    (h : pair ∈ host.clearedFiles world) : pair ∈ world.files := by
  unfold clearedFiles at h
  split at h
  · exact h
  · exact mem_of_mem_filesWithout h

lemma cleared_sound (host : AppHost) (hs : world.Sound) : (host.cleared world).Sound :=
  hs.mono le_rfl le_rfl (fun _ hpair => mem_of_mem_clearedFiles hpair)
    fun _ hm => List.mem_of_mem_filter hm

lemma stop_preserves (host : AppHost) (hs : world.Sound) :
    Preserves host.holdings world (host.stop world).self.holdings (host.stop world).world := by
  rcases stop_cases host world with ⟨_, -, hstop⟩ | ⟨result, last, hstop, hsame⟩
  · rw [hstop]
    exact .refl hs
  · rw [hstop, holdings, holdings, stopped_heldPorts]
    have hmoves : Moves host.footprint world host.stopped.footprint (host.cleared world) := by
      refine (Moves.refl hs).mono (host.cleared_sound hs) rfl rfl
        (fun module hm => List.mem_of_mem_filter hm) (fun number hn => ?_) fun area ha => ?_
      · cases hn
      · cases ha
    exact (hmoves.preserves hs (Holdings.rebinds_release rfl)).sameState hsame

lemma Act.preserves {world' : World} {left : AppHost} (hs : world.Sound)
    (h : Act host world left world') : Preserves host.holdings world left.holdings world' := by
  cases h with
  | start directory port => exact start_preserves host directory port hs
  | stop => exact stop_preserves host hs
  | handle request => exact .refl hs
  | drift _ server running thread hserver hr =>
    have hports : heldPorts { host with
        server := some { server with running := some { running with thread := thread } } } =
          host.heldPorts := by
      have hdrift := BackgroundServer.drift_heldPorts thread hr
      simp only [heldPorts, hserver]
      exact hdrift
    rw [holdings, holdings, hports]
    exact .refl hs

end AppHost

lemma TokenBuilder.create_world (builder : TokenBuilder) (world : World) : ∃ tokenIds log,
    (builder.create world).2 = { world with tokenIds := tokenIds, log := log } := by
  unfold create
  split
  · exact ⟨world.tokenIds, world.log, rfl⟩
  split
  · exact ⟨world.tokenIds, world.log, rfl⟩
  split
  · exact ⟨world.tokenIds, world.log, rfl⟩
  · unfold issue
    simp only
    split
    · exact ⟨_, _, rfl⟩
    · exact ⟨_, _, rfl⟩
    · split
      · exact ⟨_, _, rfl⟩
      · exact ⟨_, _, rfl⟩

namespace Harness

/-- What a harness holds through its host. -/
def appHoldings (harness : Harness) : Holdings :=
  (harness.appHost.map (·.holdings)).getD .empty

/-- What a harness holds through its mock server. -/
def mockHoldings (harness : Harness) : Holdings :=
  (harness.mockServer.map (·.holdings)).getD .empty

def holdings (harness : Harness) : Holdings := harness.appHoldings ++ harness.mockHoldings

variable {harness : Harness} {world : World}

/-- A host that a set-up starts and drops again leaves nothing. -/
lemma newHost_preserves (directory : Path) (port : ℤ) (hs : world.Sound) :
    Preserves .empty world (newHost.start directory port world).self.holdings
      (newHost.start directory port world).world :=
  (Preserves.of_empty hs).trans (AppHost.start_preserves newHost directory port hs)

lemma AppStarted.preserves {appHost : Option AppHost} {after : World} (hs : world.Sound)
    (hn : harness.appHost = none) (h : harness.AppStarted world appHost after) :
    Preserves .empty world ((appHost.map (·.holdings)).getD .empty) after := by
  rcases h with ⟨-, rfl, rfl⟩ | ⟨directory, url, host, -, hstart, rfl⟩
  · rw [hn]
    exact .refl hs
  · have hp := newHost_preserves directory harness.config.applicationServerPort hs
    rw [hstart] at hp
    exact hp

lemma startAll_preserves (harness : Harness) (hs : world.Sound) (hh : harness.appHost = none)
    (hm : harness.mockServer = none) :
    Preserves .empty world (harness.startAll world).self.holdings
      (harness.startAll world).world := by
  have hempty : harness.holdings = .empty := by
    unfold holdings appHoldings mockHoldings
    rw [hh, hm]
    rfl
  rcases startAll_cases harness world with
    ⟨directory, failure, host, last, -, hstart, hall⟩ | ⟨appHost, first, happ, hcases⟩
  · rw [hall, hempty]
    have hp := newHost_preserves directory harness.config.applicationServerPort hs
    rw [hstart] at hp
    exact hp.trans (.drop hp.sound _)
  have hfirst := happ.preserves hs hh
  rcases hcases with ⟨failure, -, hall⟩ | ⟨port, thread, bound, second, hbind, hsame, hcases⟩
  · rw [hall]
    unfold holdings mockHoldings
    rw [hm, Option.map_none, Option.getD_none, Holdings.append_empty]
    exact hfirst
  · obtain ⟨hfresh, next, rfl⟩ := World.bind_ok hbind
    have hsound := hfirst.sound
    have hmock : Preserves .empty first ⟨[port], []⟩ second := by
      obtain ⟨log, rfl⟩ := hsame
      exact .of_rebinds ⟨hsound.files, hsound.modules, hsound.entries⟩ rfl rfl rfl
        (Holdings.rebinds_bind hfresh rfl)
    have hboth : Preserves .empty world
        ((appHost.map (·.holdings)).getD .empty ++ ⟨[port], []⟩) second := by
      refine hfirst.trans ?_
      have hbeside := hmock.append_left ((appHost.map (·.holdings)).getD .empty)
      rwa [Holdings.append_empty] at hbeside
    rcases hcases with ⟨failure, endpoints, hall⟩ | ⟨endpoints, stub, third, -, -, hsame', hall⟩
    · rw [hall]
      exact hboth
    · rw [hall]
      exact hboth.sameState hsame'

lemma setup_preserves (hc : harness.Consistent) (hs : world.Sound) :
    Preserves harness.holdings world (harness.setup world).self.holdings
      (harness.setup world).world := by
  rcases setup_cases harness world with ⟨-, hsetup⟩ | ⟨hp, begun, hbegun, hcases⟩
  · rw [hsetup]
    exact .refl hs
  obtain ⟨hm, hh⟩ := hc.idle (Or.inl hp)
  have hempty : harness.holdings = .empty := by
    unfold holdings appHoldings mockHoldings
    rw [hh, hm]
    rfl
  have hbegins : Preserves .empty world .empty begun := .of_sameState hs hbegun
  have hall := hbegins.trans
    (startAll_preserves { harness with phase := .starting } hbegins.sound hh hm)
  rw [hempty]
  rcases hcases with ⟨_, after, last, last', hstart, hsetup, hsame⟩ |
    ⟨_, after, last, last', -, hstart, hsetup, hsame⟩ | ⟨_, after, last, -, hstart, hsetup⟩
  · rw [hstart] at hall
    rw [hsetup]
    exact hall.sameState hsame
  · rw [hstart] at hall
    rw [hsetup]
    exact hall.sameState hsame
  · rw [hstart] at hall
    rw [hsetup]
    exact hall

lemma stopMock_preserves (harness : Harness) (hs : world.Sound) :
    Preserves harness.mockHoldings world .empty (harness.stopMock world).2.2 := by
  unfold stopMock mockHoldings
  cases hm : harness.mockServer with
  | none => exact .refl hs
  | some mock =>
    have hp := mock.stop_preserves hs
    have hgone := hp.trans (.drop hp.sound _)
    simp only
    rcases hstop : mock.stop world with ⟨failure | ⟨⟩, after, last⟩
    · rw [hstop] at hgone
      exact hgone.emit _ _ _
    · rw [hstop] at hgone
      exact hgone

lemma stopApp_preserves (harness : Harness) (hs : world.Sound) :
    Preserves harness.appHoldings world .empty (harness.stopApp world).2.2 := by
  unfold stopApp appHoldings
  cases hh : harness.appHost with
  | none => exact .refl hs
  | some host =>
    have hp := host.stop_preserves hs
    have hgone := hp.trans (.drop hp.sound _)
    simp only
    rcases hstop : host.stop world with ⟨failure | ⟨⟩, after, last⟩
    · rw [hstop] at hgone
      exact hgone.emit _ _ _
    · rw [hstop] at hgone
      exact hgone

lemma stopAll_preserves (harness : Harness) (hs : world.Sound) :
    Preserves harness.holdings world .empty (harness.stopAll world).world := by
  have hmock := (harness.stopMock_preserves hs).append_left harness.appHoldings
  have happ := stopApp_preserves (harness.stopMock world).2.1 hmock.sound
  have hsame : (harness.stopMock world).2.1.appHoldings = harness.appHoldings := by
    rw [stopMock_self]
    rfl
  rw [Holdings.append_empty] at hmock
  rw [hsame] at happ
  have hboth := hmock.trans happ
  unfold stopAll
  simp only
  split
  · exact hboth.emit _ _ _
  · exact hboth

lemma teardown_preserves (harness : Harness) (hs : world.Sound) :
    Preserves harness.holdings world (harness.teardown world).self.holdings
      (harness.teardown world).world := by
  rcases teardown_cases harness world with ⟨-, ht⟩ | ⟨-, -, -, ht⟩ | ⟨-, -, ht⟩
  · rw [ht]
    exact .refl hs
  · rw [ht]
    exact .refl hs
  · rw [ht]
    have hp := stopAll_preserves { harness with phase := .stopping } hs
    have hempty : ({ harness with phase := .stopping }.stopAll world).self.holdings = .empty := by
      rcases stopAll_self { harness with phase := .stopping } world with ⟨-, hself⟩ | ⟨-, hself⟩
      · rw [hself]
        rfl
      · rw [hself]
        rfl
    rw [hempty]
    exact hp

lemma enter_preserves (hc : harness.Consistent) (hs : world.Sound) :
    Preserves harness.holdings world (harness.enter world).self.holdings
      (harness.enter world).world := by
  have hsetup := setup_preserves hc hs
  rcases enter_cases harness world with ⟨he, -⟩ | ⟨_, -, -, -, he, hsame⟩
  · rw [he]
    exact hsetup
  · have hp := hsetup.trans
      ((harness.setup world).self.teardown_preserves hsetup.sound)
    rw [he]
    exact hp.sameState hsame

lemma createToken_world (harness : Harness) (world : World) : ∃ tokenIds log,
    (harness.createToken world).2 = { world with tokenIds := tokenIds, log := log } := by
  unfold createToken
  split
  · exact ⟨world.tokenIds, world.log, rfl⟩
  · next builder _ =>
    obtain ⟨tokenIds, log, hw⟩ := builder.create_world world
    split
    · next failure last hcreate =>
      rw [hcreate] at hw
      exact ⟨tokenIds, log, hw⟩
    · next token last hcreate =>
      rw [hcreate] at hw
      obtain rfl : last = { world with tokenIds := tokenIds, log := log } := hw
      exact ⟨tokenIds, _, rfl⟩

lemma Act.preserves {after : Harness} {world' : World} (hc : harness.Consistent)
    (hs : world.Sound) (h : Act harness world after world') :
    Preserves harness.holdings world after.holdings world' := by
  cases h with
  | set _ setter _ hset =>
    obtain ⟨-, ⟨config, -, rfl⟩ | ⟨keys, rfl⟩⟩ := set_ok hset
    · exact .refl hs
    · exact .refl hs
  | setup => exact setup_preserves hc hs
  | teardown => exact teardown_preserves harness hs
  | enter => exact enter_preserves hc hs
  | createToken =>
    obtain ⟨tokenIds, log, hw⟩ := createToken_world harness world
    rw [hw]
    exact .of_rebinds ⟨hs.files, hs.modules, hs.entries⟩ rfl rfl rfl
      (Holdings.rebinds_refl _ rfl)
  | mock _ _ mock made hm ha =>
    have hmock := (ha.preserves hs).append_left harness.appHoldings
    have heq : harness.mockHoldings = mock.holdings := by
      unfold mockHoldings
      rw [hm]
      rfl
    rw [holdings, heq]
    exact hmock
  | app _ _ host made hh ha =>
    have happ := (ha.preserves hs).append_right harness.mockHoldings
    have heq : harness.appHoldings = host.holdings := by
      unfold appHoldings
      rw [hh]
      rfl
    rw [holdings, heq]
    exact happ

end Harness

end MockIssuer
