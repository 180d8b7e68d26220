import MockIssuer.Proofs.MockUse
import MockIssuer.Harness.Lifecycle

/-!
# What can be done to servers, hosts and harnesses

One act is one operation on one object in a world: it leads from the object and the world to those
that it leaves. Besides the operations that a caller can ask for, the thread of a server may change
at any time: it may crash, hang or finish. Whoever owns a harness can also reach the mock server and
the host inside it.
-/
namespace MockIssuer

/-- An act on a background server. -/
inductive BackgroundServer.Act : BackgroundServer → World → BackgroundServer → World → Prop where
  | start (server : BackgroundServer) (world : World) :
    Act server world (server.start world).self (server.start world).world
  | stop (server : BackgroundServer) (world : World) :
    Act server world (server.stop world).self (server.stop world).world
  | drift (server : BackgroundServer) (world : World) (running : Running) (thread : Thread)
    (h : server.running = some running) :
    Act server world { server with running := some { running with thread := thread } } world

/-- An act on a mock server. -/
inductive MockServer.Act : MockServer → World → MockServer → World → Prop where
  | start (mock : MockServer) (world : World) :
    Act mock world (mock.start world).self (mock.start world).world
  | stop (mock : MockServer) (world : World) :
    Act mock world (mock.stop world).self (mock.stop world).world
  | drift (mock : MockServer) (world : World) (running : Running) (thread : Thread)
    (h : mock.server.running = some running) :
    Act mock world { mock with
      server := { mock.server with running := some { running with thread := thread } } } world
  | use (mock after : MockServer) (world : World) (log : List Log.Event)
    (h : MockServer.Use (fun _ => True) mock after) : Act mock world after { world with log := log }

/-- An act on an application host. -/
inductive AppHost.Act : AppHost → World → AppHost → World → Prop where
  | start (host : AppHost) (directory : Path) (port : ℤ) (world : World) :
    Act host world (host.start directory port world).self (host.start directory port world).world
  | stop (host : AppHost) (world : World) :
    Act host world (host.stop world).self (host.stop world).world
  | handle (host : AppHost) (request : Http.Request) (world : World) :
    Act host world (host.handle request world).2 world
  | drift (host : AppHost) (world : World) (server : BackgroundServer) (running : Running)
    (thread : Thread) (hs : host.server = some server) (hr : server.running = some running) :
    Act host world { host with
      server := some { server with running := some { running with thread := thread } } } world

namespace Harness

/-- A setting of a harness, with the value that it is given. -/
inductive Setter where
  | port (port : Raw)
  | clientId (clientId : Raw)
  | keyId (keyId : Raw)
  | keys (keys : Keys)
  | applicationServer (directory port : Raw)

/-- The harness after a setting was changed, unless that is refused. -/
def set (harness : Harness) : Setter → Except Failure Harness
  | .port port => harness.setPort port
  | .clientId clientId => harness.setClientId clientId
  | .keyId keyId => harness.setKeyId keyId
  | .keys keys => harness.setKeys keys
  | .applicationServer directory port => harness.useApplicationServer directory port

/-- An act on a harness. Leaving a `with` block is a teardown, and asking for a generator changes
nothing. -/
inductive Act : Harness → World → Harness → World → Prop where
  | set (harness after : Harness) (setter : Setter) (world : World)
    (h : harness.set setter = .ok after) : Act harness world after world
  | setup (harness : Harness) (world : World) :
    Act harness world (harness.setup world).self (harness.setup world).world
  | teardown (harness : Harness) (world : World) :
    Act harness world (harness.teardown world).self (harness.teardown world).world
  | enter (harness : Harness) (world : World) :
    Act harness world (harness.enter world).self (harness.enter world).world
  | createToken (harness : Harness) (world : World) :
    Act harness world harness (harness.createToken world).2
  | mock (harness : Harness) (world world' : World) (mock after : MockServer)
    (hm : harness.mockServer = some mock) (ha : MockServer.Act mock world after world') :
    Act harness world { harness with mockServer := some after } world'
  | app (harness : Harness) (world world' : World) (host after : AppHost)
    (hh : harness.appHost = some host) (ha : AppHost.Act host world after world') :
    Act harness world { harness with appHost := some after } world'

/-- One step of a harness, in any world. -/
def Step (harness after : Harness) : Prop :=
  ∃ world world', Act harness world after world'

/-- Any number of steps, each in a world of its own. -/
abbrev Steps : Harness → Harness → Prop := Relation.ReflTransGen Step

/-- A harness that steps lead to from a new one. -/
def Reachable (harness : Harness) : Prop :=
  ∃ service world first, (Harness.new service world).1 = .ok first ∧ Steps first harness

end Harness

end MockIssuer
