import MockIssuer.Proofs.EntryModules
import MockIssuer.Proofs.FileTrees
import MockIssuer.Proofs.HostStop

/-!
# Static hosts serve a snapshot

A directory without an entry module is copied and served from the copy. The answers of a site depend
on the files below its directory alone (`StaticSite.handle_congr`), and the copy lies in the working
area of the host, which has nothing in common with the directory that it was made of. So whatever is
written and deleted in that directory after the start, requests are answered as if nothing had been,
and what is there is what these edits make of it: neither the start nor requests nor the stop change
it (`AppHost.static_snapshot`).
-/
namespace MockIssuer

namespace StaticSite
variable {site : StaticSite} {files others : FileSystem}

lemma locate?_prefix {components : List String} {location : Location}
    (h : site.locate? components = some location) : site.directory <+: location := by
  unfold locate? at h
  split at h
  · split_ifs at h with hp
    obtain rfl := Option.some.inj h
    exact List.isPrefixOf_iff_prefix.1 hp
  · cases h

section Congruence
variable (h : ∀ location, site.directory <+: location → files.at? location = others.at? location)
include h

lemma isDirectory_congr {location : Location} (hp : site.directory <+: location) :
    files.isDirectory location = others.isDirectory location := by
  rw [FileSystem.isDirectory, h location hp, FileSystem.isDirectory]

lemma serveFile?_congr (method : String) (status : ℕ) {location : Location}
    (hp : site.directory <+: location) :
    serveFile? files method status location = serveFile? others method status location := by
  rw [serveFile?, contents?, h location hp, serveFile?, contents?]

lemma serveMissing_congr (method : String) :
    site.serveMissing files method = site.serveMissing others method := by
  rw [serveMissing, serveFile?_congr h _ _ (List.prefix_append _ _), serveMissing]

lemma serveDirectory_congr (request : Http.Request) {location : Location}
    (hp : site.directory <+: location) :
    site.serveDirectory files request location = site.serveDirectory others request location := by
  rw [serveDirectory, serveFile?_congr h _ _ (hp.trans (List.prefix_append _ _)),
    serveMissing_congr h, serveDirectory]

lemma serve_congr (request : Http.Request) :
    site.serve files request = site.serve others request := by
  unfold serve
  split
  · rfl
  split
  · rfl
  simp only
  split
  · rfl
  split
  · exact serveMissing_congr h _
  · next location hlocation =>
    have hp := locate?_prefix hlocation
    rw [isDirectory_congr h hp, serveDirectory_congr h request hp, serveFile?_congr h _ _ hp,
      serveMissing_congr h]

/-- The answer of a site depends on the files below its directory alone. -/
theorem handle_congr (request : Http.Request) :
    site.handle files request = site.handle others request := by
  have hsite : StaticSite.serve { site with checked := true } files request =
      StaticSite.serve { site with checked := true } others request := serve_congr h request
  unfold handle
  rw [isDirectory_congr h List.prefix_rfl]
  simp only [hsite]

end Congruence

end StaticSite

/-- What happens while a site is served: it gets a request, or somebody changes the files. -/
inductive SiteEvent where
  | request (request : Http.Request)
  | edit (edit : FileEdit)

namespace SiteEvent

def isRequest : SiteEvent → Bool
  | request _ => true
  | edit _ => false

def edit? : SiteEvent → Option FileEdit
  | request _ => none
  | edit change => some change

end SiteEvent

namespace AppHost
variable {host : AppHost} {directory : Path} {source : Location} {port : ℤ} {world : World}

/-- What a host answers while requests reach it and files are changed, with the host and the world
that are left. -/
def run (host : AppHost) (world : World) : List SiteEvent → List Http.Answer × AppHost × World
  | [] => ([], host, world)
  | .request request :: rest =>
    let (answer, host) := host.handle request world
    let (answers, host, world) := host.run world rest
    (answer :: answers, host, world)
  | .edit edit :: rest => host.run { world with files := edit.apply world.files } rest

/-- The edits among some events. -/
def editsOf (events : List SiteEvent) : List FileEdit := events.filterMap SiteEvent.edit?

lemma run_world (host : AppHost) (world : World) (events : List SiteEvent) :
    (host.run world events).2.2 =
      { world with files := (editsOf events).foldl FileEdit.apply world.files } := by
  induction events generalizing host world with
  | nil => rfl
  | cons event rest ih =>
    cases event with
    | request request => exact ih (host.handle request world).2 world
    | edit edit => exact ih host { world with files := edit.apply world.files }

lemma run_workingArea (host : AppHost) (world : World) (events : List SiteEvent) :
    (host.run world events).2.1.workingArea = host.workingArea := by
  induction events generalizing host world with
  | nil => rfl
  | cons event rest ih =>
    cases event with
    | request request => exact ih (host.handle request world).2 world
    | edit edit => exact ih host { world with files := edit.apply world.files }

/-- A static site in an area answers requests alike, whatever is changed beside the area. -/
lemma run_answers {area : Location} {site : StaticSite} (hsite : host.hosted = .site site)
    (harea : area <+: site.directory) {events : List SiteEvent}
    (hbeside : ∀ edit ∈ editsOf events,
      ∀ location, area <+: location → ¬ location <+: edit.place ∧ ¬ edit.place <+: location)
    {others : World} (hsame : ∀ location, area <+: location →
      world.files.at? location = others.files.at? location) :
    (host.run world events).1 = (host.run others (events.filter SiteEvent.isRequest)).1 := by
  induction events generalizing host world site with
  | nil => rfl
  | cons event rest ih =>
    cases event with
    | request request =>
      have hhandle : host.handle request world = host.handle request others := by
        have hcongr := StaticSite.handle_congr
          (fun location hp => hsame location (harea.trans hp)) request
        unfold handle Hosted.handle
        simp only [hsite, hcongr]
      have hdirectory : (site.handle others.files request).2.directory = site.directory := by
        unfold StaticSite.handle
        split <;> rfl
      have hserved : (host.handle request others).2.hosted =
          .site (site.handle others.files request).2 := by
        unfold handle Hosted.handle
        rw [hsite]
      have hrest := ih hserved (by rwa [hdirectory]) hbeside hsame
      simp only [List.filter_cons, SiteEvent.isRequest, if_true, run, hhandle, hrest]
    | edit edit =>
      have hedit := hbeside edit (by simp [editsOf, SiteEvent.edit?])
      refine ih hsite harea (fun other ho => hbeside other ?_) fun location hp => ?_
      · simp only [editsOf, List.filterMap_cons, SiteEvent.edit?, List.mem_cons]
        exact Or.inr ho
      · obtain ⟨habove, hbelow⟩ := hedit location hp
        exact (FileEdit.at?_apply world.files habove hbelow).trans (hsame location hp)

lemma loadApp_of_isFile_eq_false {copy : Location}
    (h : world.files.isFile (moduleFile copy host.entryModule) = false) :
    ∃ log, host.loadApp copy world =
      ⟨.ok (.site ⟨copy, false⟩), host, { world with log := log }⟩ := by
  unfold loadApp
  simp only [h, Bool.not_false, if_true]
  exact ⟨_, rfl⟩

/-- The next working area has nothing in common with a directory that there is, below the top. -/
lemma apart_next (hs : world.Sound) (hne : source ≠ [])
    (hd : world.files.isDirectory source = true) {location : Location}
    (ha : areaOf (world.areas + 1) <+: location) : ¬ source <+: location := by
  intro hp
  have hsource : ¬ areaOf (world.areas + 1) <+: source := by
    intro hbelow
    unfold FileSystem.isDirectory FileSystem.at? at hd
    rw [if_neg (by simpa using hne)] at hd
    cases hlookup : world.files.lookup source with
    | none =>
      rw [hlookup] at hd
      cases hd
    | some entry =>
      obtain ⟨front, back, hfiles, -⟩ := List.lookup_eq_some_iff.1 hlookup
      have hle := hs.files (source, entry) (by simp [hfiles]) _ hbelow
      omega
  rcases List.prefix_or_prefix_of_prefix hp ha with harea | hbelow
  · cases source with
    | nil => exact hne rfl
    | cons name rest =>
      obtain ⟨rfl, hrest⟩ := List.cons_prefix_cons.1 harea
      obtain rfl := List.prefix_nil.1 hrest
      exact hsource List.prefix_rfl
  · exact hsource hbelow

lemma sameTree_nextCopy (hs : world.Sound) (htree : world.files.IsTree) (hne : source ≠ [])
    (hd : world.files.isDirectory source = true) :
    FileSystem.SameTree ((makeArea world).2.copyInto source (makeArea world).1).files
      (nextCopy world) world.files source := by
  have hmade : (makeArea world).2.files =
      world.files.put (areaOf (world.areas + 1)) .directory := rfl
  have hbeside (rest : Location) : (makeArea world).2.files.at? (source ++ rest) =
      world.files.at? (source ++ rest) := by
    refine FileSystem.at?_put_of_ne _ _ fun hsame => ?_
    have hnext : source ++ rest = areaOf (world.areas + 1) := hsame
    exact apart_next hs hne hd List.prefix_rfl (hnext ▸ List.prefix_append source rest)
  have hfree (rest : Location) :
      (makeArea world).2.files.at? (nextCopy world ++ rest) = none := by
    rw [hmade, FileSystem.at?_put_of_ne _ _ (by simp [nextCopy]), FileSystem.at?,
      if_neg (by simp [nextCopy]), List.lookup_eq_none_iff]
    intro pair hpair
    rw [bne_iff_ne]
    intro hsame
    have hle := hs.files pair hpair (world.areas + 1) (by
      rw [← hsame, nextCopy, List.append_assoc]
      exact List.prefix_append _ _)
    omega
  have hdirectory : (makeArea world).2.files.isDirectory source = true := by
    have hsame := hbeside []
    rw [List.append_nil] at hsame
    rw [FileSystem.isDirectory, hsame]
    exact hd
  have hcopy := FileSystem.sameTree_copyTree (hmade ▸ htree.put _ _) hne hdirectory
    (List.append_ne_nil_of_left_ne_nil (List.cons_ne_nil _ _) _) hfree
  exact fun rest => (hcopy rest).trans (hbeside rest)

lemma start_static (hs : world.Sound) (htree : world.files.IsTree)
    (hsource : world.files.find? World.currentLocation directory = .ok source) (hne : source ≠ [])
    (hentry : world.files.isFile (moduleFile source host.entryModule) = false) {url : String}
    (hstart : (host.start directory port world).result = .ok url) :
    world.files.isDirectory source = true ∧
    (host.start directory port world).self.hosted = .site ⟨nextCopy world, false⟩ ∧
    (host.start directory port world).self.workingArea = some (areaOf (world.areas + 1)) ∧
    (host.start directory port world).world.files =
      ((makeArea world).2.copyInto source (makeArea world).1).files := by
  obtain ⟨source', hosted, server, bound, _, hfound, hlaunch, hself, hafter⟩ := start_ok hstart
  obtain ⟨hsource', hd⟩ := look_eq_some (source?_eq_some hfound).2.1
  obtain rfl : source = source' := Except.ok.inj (hsource.symm.trans hsource')
  have hcopy := sameTree_nextCopy hs htree hne hd
  have hstatic : ((makeArea world).2.copyInto source (makeArea world).1).files.isFile
      (moduleFile (nextCopy world) host.entryModule) = false := by
    unfold FileSystem.isFile moduleFile at hentry ⊢
    rwa [hcopy]
  obtain ⟨log, hload⟩ := loadApp_of_isFile_eq_false hstatic
  obtain ⟨-, hresult, _, _, _, hworld⟩ := launch_ok hlaunch
  obtain rfl : hosted = .site ⟨nextCopy world, false⟩ := by
    refine Except.ok.inj (hresult.symm.trans ?_)
    exact congrArg Outcome.result hload
  refine ⟨hd, congrArg AppHost.hosted hself, congrArg AppHost.workingArea hself, ?_⟩
  refine (congrArg World.files hafter).trans ?_
  rw [hworld]
  exact congrArg (·.world.files) hload

lemma stop_beside {area location : Location} (ha : host.workingArea = some area)
    (hb : ¬ area <+: location) (world : World) :
    (host.stop world).world.files.at? location = world.files.at? location := by
  rcases host.stop_cases world with ⟨_, -, hstop⟩ | ⟨_, _, hstop, log, rfl⟩
  · rw [hstop]
  · rw [hstop]
    refine clearedFiles_beside (fun other ho => ?_) world
    rw [ha] at ho
    exact Option.some.inj ho ▸ hb

/-- A host that is started in a directory without an entry module serves a snapshot of it, whatever
is written and deleted there afterwards, while requests reach the host. It serves a copy that holds
what the directory held. It answers as if there were only the requests. And what is in the directory
is what was there after the start, what the edits make of it while requests are answered, and the
same after the stop, whether this succeeds or not. -/
theorem static_snapshot (hs : world.Sound) (htree : world.files.IsTree)
    (hsource : world.files.find? World.currentLocation directory = .ok source) (hne : source ≠ [])
    (hentry : world.files.isFile (moduleFile source host.entryModule) = false) {url : String}
    (hstart : (host.start directory port world).result = .ok url) {events : List SiteEvent}
    (hevents : ∀ edit ∈ editsOf events, source <+: edit.place) :
    let started := (host.start directory port world).self
    let after := (host.start directory port world).world
    let served := (started.run after events).2.1
    let last := (started.run after events).2.2
    let edited := (editsOf events).foldl FileEdit.apply world.files
    (∃ copy, started.hosted = .site ⟨copy, false⟩ ∧
      FileSystem.SameTree after.files copy world.files source) ∧
    (started.run after events).1 =
      (started.run after (events.filter SiteEvent.isRequest)).1 ∧
    FileSystem.SameTree after.files source world.files source ∧
    FileSystem.SameTree last.files source edited source ∧
    FileSystem.SameTree (served.stop last).world.files source edited source := by
  intro started after served last edited
  obtain ⟨hd, hhosted, harea, hfiles⟩ := start_static hs htree hsource hne hentry hstart
  have hcopy := sameTree_nextCopy hs htree hne hd
  have hbelow : areaOf (world.areas + 1) <+: nextCopy world := List.prefix_append _ _
  have hbeside (rest : Location) : ¬ areaOf (world.areas + 1) <+: source ++ rest :=
    fun hp => apart_next hs hne hd hp (List.prefix_append _ _)
  have hplaces : ∀ edit ∈ editsOf events, ¬ areaOf (world.areas + 1) <+: edit.place :=
    fun edit he hp => apart_next hs hne hd hp (hevents edit he)
  have hremoved : after.files.removeTree (areaOf (world.areas + 1)) = world.files := by
    rw [hfiles]
    exact (copy_next hs source rfl rfl).1
  have hlast : FileSystem.SameTree last.files source edited source := by
    intro rest
    have hrun : last.files = (editsOf events).foldl FileEdit.apply after.files :=
      congrArg World.files (run_world started after events)
    rw [hrun, ← FileSystem.at?_removeTree_beside _ (hbeside rest),
      FileEdit.removeTree_foldl_apply hplaces, hremoved]
  refine ⟨⟨nextCopy world, hhosted, hfiles ▸ hcopy⟩, ?_, fun rest => ?_, hlast, fun rest => ?_⟩
  · refine run_answers hhosted hbelow (fun edit he location hp => ⟨fun habove => ?_, fun hin => ?_⟩)
      fun _ _ => rfl
    · exact hplaces edit he (hp.trans habove)
    · exact apart_next hs hne hd hp ((hevents edit he).trans hin)
  · rw [← FileSystem.at?_removeTree_beside after.files (hbeside rest), hremoved]
  · have hserved : served.workingArea = some (areaOf (world.areas + 1)) :=
      (run_workingArea started after events).trans harea
    exact (stop_beside hserved (hbeside rest) last).trans (hlast rest)

/-- A world with a page to serve. -/
def paged : World where
  files := [
    (["cwd"], .directory),
    (["cwd", "site"], .directory),
    (["cwd", "site", "index.html"], .file [111, 108, 100])]

lemma paged_sound : paged.Sound := by
  refine .of_currentLocation (fun pair hpair => ?_) rfl
  simp only [paged, List.mem_cons, List.not_mem_nil, or_false] at hpair
  rcases hpair with rfl | rfl | rfl <;> simp [World.currentLocation]

/-- The page that was there at the start is served after it was deleted and written anew. -/
theorem old_page_served :
    let host : AppHost := { entryModule := "app", appName := "app", host := none }
    let started := host.start ⟨0, ["site"]⟩ 8181 paged
    let events : List SiteEvent := [
      .edit (.delete ["cwd", "site"]),
      .edit (.write ["cwd", "site", "index.html"] (.file [110, 101, 119])),
      .request ⟨"GET", ['/'], []⟩]
    (started.self.run started.world events).1 = [.ok {
      status := 200
      body := "old"
      contentType := some "text/html; charset=utf-8"
      contentLength := some 3 }] := by
  intro host started events
  have htree : paged.files.IsTree := by decide
  have hsource : paged.files.find? World.currentLocation ⟨0, ["site"]⟩ = .ok ["cwd", "site"] := by
    rfl
  have hstart : started.result = .ok (localUrl 8181) := by
    subst started host
    rfl
  have hevents : ∀ edit ∈ editsOf events, ["cwd", "site"] <+: edit.place := by decide
  obtain ⟨-, hanswers, -⟩ := static_snapshot paged_sound htree hsource (List.cons_ne_nil _ _)
    (by rfl) hstart hevents
  refine hanswers.trans ?_
  subst events started host
  rfl

end AppHost

end MockIssuer
