import MockIssuer.Config.Raw
import MockIssuer.Endpoints
import MockIssuer.Host.Loading
import MockIssuer.Host.Static
import MockIssuer.Server.Background

/-!
# Application hosts

A host copies the directory of a web application into a working area of its own, loads the
application from the copy and serves it in the background. A directory without the entry module is
served as a static site. A start that fails takes back what it has done, unless the application
ended the process; a stop does both of its steps, the server and the working area, unless the
timeout of the first cannot be read.
-/
namespace MockIssuer

/-- What a host serves. -/
inductive Hosted where
  | application (text : String) (imported : List (Option Json))
  | site (site : StaticSite)
  /-- An object that answers no requests. -/
  | inert

/-- Answers a request. An application fails on it where a module that it imported has no value. -/
def Hosted.handle (hosted : Hosted) (files : FileSystem) (request : Http.Request) :
    Http.Answer × Hosted :=
  match hosted with
  | .application text imported =>
    if imported.all (·.isSome) then
      (.ok {
        status := 200
        body := text ++ String.join (imported.filterMap (·.map Json.display))
        contentType := some "text/plain" }, hosted)
    else (.error ⟨"AttributeError", none⟩, hosted)
  | .site served =>
    let (answer, served) := served.handle files request
    (answer, .site served)
  | .inert => (.error ⟨"TypeError", none⟩, hosted)

structure AppHost where
  entryModule : String
  appName : String
  host : Option String
  server : Option BackgroundServer := none
  hosted : Hosted := .inert
  workingArea : Option Location := none
  /-- The number of the entry module that was loaded last and not unloaded. -/
  entry : Option Nat := none
  boundPort : Option Nat := none

namespace AppHost

def defaultEntryModule : String := "app"
def defaultAppName : String := "app"
def serverName : String := "application-server"
def areaStart : String := "security-harness-"

def port (host : AppHost) : Except Failure Nat :=
  match host.boundPort with
  | some port => .ok port
  | none => .error (.notStarted "application server")

def baseUrl (host : AppHost) : Except Failure String := host.port.map localUrl

def isRunning (host : AppHost) : Bool := host.server.any (·.isRunning)

/-- Makes the next working area. -/
def makeArea (world : World) : Location × World :=
  let number := world.areas + 1
  let area := [areaStart ++ String.ofList (Number.natText number)]
  (area, { world with areas := number, files := world.files.write area .directory })

/-- The name of a loaded module in log events. -/
def moduleText : ModuleName → String
  | .named name => name
  | .entry number => "_security_harness_webapp_" ++ String.ofList (Text.hexDigits 32 number)

/-- The modules without the entry module of a number. -/
def forgetEntry (modules : ModuleTable) : Option Nat → ModuleTable
  | some number => modules.unregister (.entry number)
  | none => modules

/-- Forgets the entry module and every module that came from the working area. -/
def unloadModules (host : AppHost) (area : Option Location) (world : World) : AppHost × World :=
  let modules := forgetEntry world.modules host.entry
  let host := { host with entry := none }
  match area with
  | none => (host, { world with modules := modules })
  | some area =>
    (host, (modules.below area).foldl
      (fun world module => world.emit .debug "application_module_unloaded"
        [("module", .string (moduleText module.name))])
      { world with modules := modules.dropBelow area })

/-- What the loaded entry module offers under the name of the application. -/
def hostedOf : Option Bound → Option Hosted
  | some (.application text imported) => some (.application text imported)
  | some (.value .null) | some .absent | none => none
  | some (.value _) => some .inert

/-- Loads the application in a copied directory. -/
def loadApp (host : AppHost) (copy : Location) (world : World) : Outcome AppHost Hosted :=
  let file := moduleFile copy host.entryModule
  if !world.files.isFile file then
    ⟨.ok (.site ⟨copy, false⟩), host, world.emit .info "application_server_static_content"
      [("directory", .string (World.pathOf copy).text)]⟩
  else
    let (number, result, world) := world.loadEntry file
    let host := { host with entry := some number }
    match result with
    | .error failure => ⟨.error failure, host, world⟩
    | .ok () =>
      let found := (world.modules.find? (.entry number)).bind (·.names.lookup host.appName)
      match hostedOf found with
      | some hosted => ⟨.ok hosted, host, world⟩
      | none =>
        ⟨.error (.missingApplication (World.pathOf file).text host.appName), host, world⟩

/-- Copies the application, loads it and starts its server. -/
def launch (host : AppHost) (source area : Location) (port : Int) (world : World) :
    Outcome AppHost (Hosted × BackgroundServer × Nat) :=
  match world.unreadable.lookup source with
  | some fault => ⟨.error (.refusedBySystem fault), host, world⟩
  | none =>
    let copy := area ++ ["webapp"]
    let world := { world with files := world.files.copyTree source copy }
    match host.loadApp copy world with
    | ⟨.error failure, host, world⟩ => ⟨.error failure, host, world⟩
    | ⟨.ok hosted, host, world⟩ =>
      match (BackgroundServer.new world.environment serverName port host.host).start world with
      | ⟨.error failure, _, world⟩ => ⟨.error failure, host, world⟩
      | ⟨.ok bound, server, world⟩ => ⟨.ok (hosted, server, bound), host, world⟩

/-- A failure of the start, told as such unless it is one already. -/
def startFailure (port : Int) (failure : Failure) : Failure :=
  if failure.family = "ResourceStartupError" then failure else .applicationStart port failure

/-- Why a working area cannot be removed, if it cannot. -/
def removalFault? (world : World) (area : Location) : Option SystemFault :=
  let text := (World.pathOf area).text
  match world.files.at? area with
  | some .directory => world.busyAreas.lookup area
  | some _ => some (.notADirectory text)
  | none => some (.noSuchFile text)

/-- The files without a working area, where it can be removed. -/
def filesWithout (world : World) (area : Location) : FileSystem :=
  if (removalFault? world area).isSome then world.files else world.files.removeTree area

theorem filesWithout_of_none {world : World} {area : Location}
    (h : removalFault? world area = none) :
    filesWithout world area = world.files.removeTree area := by
  simp [filesWithout, h]

theorem filesWithout_of_some {world : World} {area : Location} {fault : SystemFault}
    (h : removalFault? world area = some fault) : filesWithout world area = world.files := by
  simp [filesWithout, h]

/-- Starts the application in an existing directory, shown as `sourceText`. -/
def startIn (host : AppHost) (source : Location) (sourceText : String) (port : Int)
    (world : World) : Outcome AppHost String :=
  let (area, world) := makeArea world
  match host.launch source area port world with
  | ⟨.ok (hosted, server, bound), host, world⟩ =>
    ⟨.ok (localUrl bound),
      { host with
        server := some server
        hosted := hosted
        workingArea := some area
        boundPort := some bound },
      world.emit .info "application_server_started" [("port", .int bound),
        ("webapp_dir", .string sourceText), ("working_dir", .string (World.pathOf area).text)]⟩
  | ⟨.error failure, host, world⟩ =>
    if failure.isOrdinary then
      let (host, world) := host.unloadModules (some area) world
      let world := { world with files := filesWithout world area }
      ⟨.error (startFailure port failure), host,
        world.emit .error "application_server_start_failed" [("port", .int port),
          ("webapp_dir", .string sourceText), ("error", .string failure.message)]⟩
    else ⟨.error failure, host, world⟩

/-- There is no such directory. -/
def refuseDirectory (host : AppHost) (sourceText : String) (port : Int) (world : World) :
    Outcome AppHost String :=
  ⟨.error (.missingWebApp sourceText), host,
    world.emit .error "application_server_start_failed"
      [("port", .int port), ("webapp_dir", .string sourceText)]⟩

/-- What a look at a directory, shown as `sourceText`, comes to: the directory, if it is one. A text
with a null character stands for none, and one that is too long is refused by the system, and so is
a directory that it hides. -/
def look (world : World) (directory : Path) (sourceText : String) :
    Except SystemFault (Option Location) :=
  if directory.hasNul then .ok none
  else if FileSystem.pathLimit < FileSystem.byteLength sourceText then
    .error (.nameTooLong sourceText)
  else match world.hidden.lookup sourceText, world.files.find? World.currentLocation directory with
    | some fault, _ => .error fault
    | none, .error .tooLong => .error (.nameTooLong sourceText)
    | none, .error _ => .ok none
    | none, .ok source => .ok (if world.files.isDirectory source then some source else none)

/-- Starts the web application in a directory on a port and answers its base URL. What the system
refuses before there is a working area comes out as it is. -/
def start (host : AppHost) (directory : Path) (port : Int) (world : World) :
    Outcome AppHost String :=
  if host.server.isSome then ⟨.error (.startedBefore "application server"), host, world⟩
  else
    let sourceText := ((World.pathOf World.currentLocation).resolveFrom directory).text
    match look world directory sourceText, world.areaFault with
    | .error fault, _ => ⟨.error (.refusedBySystem fault), host, world⟩
    | .ok none, _ => host.refuseDirectory sourceText port world
    | .ok (some _), some fault => ⟨.error (.refusedBySystem fault), host, world⟩
    | .ok (some source), none => host.startIn source sourceText port world

def portValue (host : AppHost) : Json :=
  match host.boundPort with
  | some port => .int port
  | none => .null

/-- The first step of a stop. A failure that is no failed teardown ends the stop. -/
def stopServer (host : AppHost) (world : World) : Outcome AppHost (List Failure) :=
  match host.server with
  | none => ⟨.ok [], host, world⟩
  | some server =>
    match server.stop world with
    | ⟨.ok (), server, world⟩ => ⟨.ok [], { host with server := some server }, world⟩
    | ⟨.error (.teardown fault causes), server, world⟩ =>
      let failure := Failure.teardown fault causes
      ⟨.ok [failure], { host with server := some server },
        world.emit .error "application_server_stop_failed"
          [("port", host.portValue), ("error", .string failure.message)]⟩
    | ⟨.error failure, server, world⟩ =>
      ⟨.error failure, { host with server := some server }, world⟩

/-- The second step of a stop: the working area is removed. -/
def removeArea (host : AppHost) (world : World) : List Failure × AppHost × World :=
  match host.workingArea with
  | none => ([], host, world)
  | some area =>
    let host := { host with workingArea := none }
    match removalFault? world area with
    | none => ([], host, { world with files := world.files.removeTree area })
    | some fault =>
      let failure := Failure.refusedBySystem fault
      ([failure], host, world.emit .error "application_server_cleanup_failed"
        [("working_dir", .string (World.pathOf area).text), ("error", .string failure.message)])

/-- Stops the server, unloads the modules and removes the working area. -/
def stop (host : AppHost) (world : World) : Outcome AppHost Unit :=
  match host.stopServer world with
  | ⟨.error failure, host, world⟩ => ⟨.error failure, host, world⟩
  | ⟨.ok serverFailures, host, world⟩ =>
    let (host, world) := host.unloadModules host.workingArea world
    let (areaFailures, host, world) := host.removeArea world
    match serverFailures ++ areaFailures with
    | [] => ⟨.ok (), host, world.emit .info "application_server_stopped"
        [("port", host.portValue)]⟩
    | failures => ⟨.error (.teardown .applicationServer failures), host, world⟩

/-- Answers a request to the application. -/
def handle (host : AppHost) (request : Http.Request) (world : World) : Http.Answer × AppHost :=
  let (answer, hosted) := host.hosted.handle world.files request
  (answer, { host with hosted := hosted })

end AppHost

end MockIssuer
