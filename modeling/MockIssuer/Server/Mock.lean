import MockIssuer.Endpoints
import MockIssuer.Json.Printer
import MockIssuer.Server.Background
import MockIssuer.Server.Routing
import MockIssuer.Server.StubTable

/-!
# The mock identity server

A background server with a table of stubs and a journal of the requests that reached it. Requests
are answered from the table whether the server runs or not; those that no stub answers get a
document that names them.
-/
namespace MockIssuer

structure MockServer where
  server : BackgroundServer
  stubs : StubTable
  /-- The method and the target of every request, oldest first. -/
  journal : List (String × String)

namespace MockServer

def serverName : String := "mock-identity-server"

def new (environment : Environment) (port : Int) (host : Option String) : MockServer :=
  ⟨.new environment serverName port host, [], []⟩

def port (mock : MockServer) : Except Failure Nat := mock.server.port

def baseUrl (mock : MockServer) : Except Failure String := mock.port.map localUrl

def isRunning (mock : MockServer) : Bool := mock.server.isRunning

def start (mock : MockServer) (world : World) : Outcome MockServer Nat :=
  match mock.server.start world with
  | ⟨.error failure, server, world⟩ => ⟨.error failure, { mock with server := server }, world⟩
  | ⟨.ok port, server, world⟩ =>
    ⟨.ok port, { mock with server := server },
      world.emit .info "mock_server_started" [("port", .int port)]⟩

def stop (mock : MockServer) (world : World) : Outcome MockServer Unit :=
  match mock.server.stop world with
  | ⟨.error failure, server, world⟩ => ⟨.error failure, { mock with server := server }, world⟩
  | ⟨.ok (), server, world⟩ =>
    ⟨.ok (), { mock with server := server }, world.emit .info "mock_server_stopped" []⟩

/-- Registers a stub, in place of any for the same method and path. -/
def register (mock : MockServer) (stub : Stub) (world : World) : MockServer × World :=
  ({ mock with stubs := mock.stubs.register stub },
    world.emit .debug "mock_server_stub_registered"
      [("method", .string stub.method), ("path", .string stub.path)])

/-- Registers the stub of some fields, unless they make none. -/
def registerFields (mock : MockServer) (fields : Raw.Fields) (world : World) :
    Outcome MockServer Stub :=
  match Stub.ofFields fields with
  | .error violations => ⟨.error (.invalidRecord violations), mock, world⟩
  | .ok stub =>
    let (mock, world) := mock.register stub world
    ⟨.ok stub, mock, world⟩

def resetRequests (mock : MockServer) : MockServer :=
  { mock with journal := [] }

/-- The response that a stub describes. -/
def stubResponse (stub : Stub) : Except Failure Http.Response :=
  let response := Http.response stub.statusCode stub.body stub.contentType
  let contentType := response.contentType.getD ""
  if Http.isHeaderText contentType then .ok response else .error (.wideHeader contentType)

/-- The document for a request that no stub answers. -/
def unmatched (method target : String) : Http.Response :=
  Http.response 404
    (Json.render .compact (.object [("error", .string "no stub registered"),
      ("method", .string method), ("path", .string target)]))
    "application/json"

/-- Notes a request in the journal and answers it from the table. -/
def respond (mock : MockServer) (method path query : String) (world : World) :
    Outcome MockServer Http.Response :=
  let target := targetOf path query
  let mock := { mock with journal := mock.journal ++ [(method, target)] }
  match mock.stubs.answer? method path query with
  | some stub => ⟨stubResponse stub, mock, world⟩
  | none =>
    ⟨.ok (unmatched method target), mock, world.emit .debug "mock_server_unmatched_request"
      [("method", .string method), ("path", .string path)]⟩

/-- A document that says why a request was not routed. -/
def detail (status : Nat) (text : String) : Http.Response :=
  Http.response status (Json.render .compact (.object [("detail", .string text)]))
    "application/json"

/-- Answers a request to the server. -/
def handle (mock : MockServer) (request : Http.Request) (world : World) :
    Http.Answer × MockServer × World :=
  match request.destination with
  | .methodNotAllowed => (.ok (detail 405 "Method Not Allowed"), mock, world)
  | .notFound => (.ok (detail 404 "Not Found"), mock, world)
  | .redirected path =>
    (.ok (Http.redirect (Http.urlOf (Http.urlPath path) request.query)), mock, world)
  | .stubs =>
    let outcome := mock.respond request.method (String.ofList request.shownPath)
      (String.ofList request.shownQuery) world
    (outcome.result.mapError fun failure => ⟨failure.family, none⟩, outcome.self, outcome.world)

end MockServer

end MockIssuer
