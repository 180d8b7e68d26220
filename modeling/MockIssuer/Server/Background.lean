import MockIssuer.World.Sockets

/-!
# Servers in the background

A server binds its port when it is started and serves on a thread of its own. It is started once.
Stopping waits for the thread and gives the port back; it fails if the thread goes on or had
crashed, and fails again when it is repeated. Where the timeout cannot be read or waited for, nothing
is done.
-/
namespace MockIssuer

/-- The thread of a server that was started. -/
inductive Thread where
  | serving
  | finished
  | hanging
  | crashed (cause : Failure)

/-- A server that was started: its port, whether it still holds it, and its thread. -/
structure Running where
  port : Nat
  holdsPort : Bool
  thread : Thread

structure BackgroundServer where
  name : String
  requestedPort : Int
  host : String
  running : Option Running

namespace BackgroundServer

/-- A server that was not started yet. -/
def new (environment : Environment) (name : String) (port : Int) (host : Option String) :
    BackgroundServer :=
  ⟨name, port, environment.bindHost host, none⟩

def port (server : BackgroundServer) : Except Failure Nat :=
  match server.running with
  | some running => .ok running.port
  | none => .error (.notStarted server.name)

def isRunning (server : BackgroundServer) : Bool :=
  match server.running with
  | some ⟨_, _, .serving⟩ | some ⟨_, _, .hanging⟩ => true
  | _ => false

/-- The thread of a new server; one that crashes says so at once. -/
def launch (server : BackgroundServer) (port : Nat) (world : World) : Thread × World :=
  match world.behaviour server.name with
  | .serves => (.serving, world)
  | .hangs => (.hanging, world)
  | .crashes cause =>
    (.crashed cause, world.emit .error "background_server_crashed"
      [("server", .string server.name), ("port", .int port), ("exc_info", .bool true)])

/-- Binds the port and starts to serve. -/
def start (server : BackgroundServer) (world : World) : Outcome BackgroundServer Nat :=
  if server.running.isSome then ⟨.error (.startedBefore server.name), server, world⟩
  else
    match world.bind server.host server.requestedPort with
    | (.error failure, world) => ⟨.error failure, server, world⟩
    | (.ok port, world) =>
      let (thread, world) := server.launch port world
      ⟨.ok port, { server with running := some ⟨port, true, thread⟩ },
        world.emit .debug "background_server_started"
          [("server", .string server.name), ("host", .string server.host), ("port", .int port)]⟩

/-- The thread after it was asked to finish and waited for. -/
def join : Thread → Thread
  | .serving => .finished
  | thread => thread

def close (running : Running) (world : World) : World :=
  if running.holdsPort then world.release running.port else world

/-- Whether a thread can be waited for that many seconds. All below zero count as none, and the
longest wait is one of whole microseconds. -/
def acceptsWait (seconds : Number.Binary64) : Bool :=
  !seconds.isNaN && (seconds.negative ||
    seconds.isFinite && seconds.ratio.1 * Nat.pow 10 6 ≤ 9223372036854775 * seconds.ratio.2)

/-- Why a thread is not waited for, where waits have bounds: they are looked at unless the thread
has been waited for with success. -/
def waitFault? (server : BackgroundServer) (running : Running) (timeout : Number.Binary64)
    (world : World) : Option Failure :=
  if !(world.boundsWaits && (server.isRunning || running.holdsPort)) then none
  else if timeout.isNaN then some (.wrongValue .notATime)
  else if acceptsWait timeout then none
  else some (.outOfRange .wait)

/-- Stops serving and gives the port back. A server that was never started is left alone. -/
def stop (server : BackgroundServer) (world : World) : Outcome BackgroundServer Unit :=
  match server.running with
  | none => ⟨.ok (), server, world⟩
  | some running =>
    match world.environment.readShutdownTimeout with
    | .error failure => ⟨.error failure, server, world⟩
    | .ok timeout =>
      match server.waitFault? running timeout world with
      | some failure => ⟨.error failure, server, world⟩
      | none =>
        let world := close running world
        let thread := join running.thread
        let server := { server with running := some ⟨running.port, false, thread⟩ }
        match thread with
        | .hanging =>
          ⟨.error (.teardown (.unfinished server.name running.port timeout) []), server, world⟩
        | .crashed cause =>
          ⟨.error (.teardown (.crashed server.name running.port) [cause]), server, world⟩
        | _ =>
          ⟨.ok (), server, world.emit .debug "background_server_stopped"
            [("server", .string server.name), ("port", .int running.port)]⟩

end BackgroundServer

end MockIssuer
