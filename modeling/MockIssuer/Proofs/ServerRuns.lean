import MockIssuer.Proofs.FrameRules
import MockIssuer.Proofs.FreePorts

/-!
# Starts and stops of one server

A run of a server is any sequence of starts and stops, each in a world of its own, with a thread
that may crash, hang or finish at any time. It is followed through what the calls answered: as long
as no start succeeded the server is as it was made, and from the one start that did succeed on it
keeps its port, and holds it until the first stop (`Run.idle_or_started`).
-/
namespace MockIssuer

/-- The timeout of a world is not set, or it is a number that joining a thread accepts. -/
def World.IsTimed (world : World) : Prop :=
  world.environment.shutdownTimeout = none ∨
    ∃ timeout, world.environment.readShutdownTimeout = .ok timeout ∧ timeout.IsAccepted

lemma World.IsTimed.exists_timeout {world : World} (h : world.IsTimed) :
    ∃ timeout, world.environment.readShutdownTimeout = .ok timeout ∧ timeout.IsAccepted := by
  rcases h with hnone | htimeout
  · refine ⟨Environment.defaultShutdownTimeout, ?_,
      BackgroundServer.acceptsWait_iff.1 (by decide +kernel)⟩
    rw [Environment.readShutdownTimeout, hnone]
  · exact htimeout

namespace BackgroundServer

/-- A call on a server, with what it answered. -/
inductive Event where
  | start (result : Except Failure ℕ)
  | stop (result : Except Failure Unit)

/-- The port of a start that succeeded. -/
def Event.port? : Event → Option ℕ
  | .start (.ok port) => some port
  | _ => none

def Event.isStop : Event → Bool
  | .start _ => false
  | .stop _ => true

/-- The calls on a server that was made as `first`, with the server and the world that they leave.
Between two calls the thread changes as it likes, and so does the world, except that nobody else
gives back a port that the server holds. -/
inductive Run (first : BackgroundServer) : List Event → BackgroundServer → World → Prop where
  | new (world : World) : Run first [] first world
  | start {history : List Event} {server : BackgroundServer} {world : World}
    (h : Run first history server world) :
    Run first (history ++ [.start (server.start world).result])
      (server.start world).self (server.start world).world
  | stop {history : List Event} {server : BackgroundServer} {world : World}
    (h : Run first history server world) (ht : world.IsTimed) :
    Run first (history ++ [.stop (server.stop world).result])
      (server.stop world).self (server.stop world).world
  | drift {history : List Event} {server : BackgroundServer} {world : World}
    (h : Run first history server world) (running : Running) (thread : Thread)
    (hr : server.running = some running) :
    Run first history { server with running := some { running with thread := thread } } world
  | others {history : List Event} {server : BackgroundServer} {world : World}
    (h : Run first history server world) (after : World)
    (hk : ∀ port ∈ server.heldPorts, port ∈ after.bound) : Run first history server after

/-- No start succeeded, and the server is as it was made. -/
structure IsIdle (first : BackgroundServer) (history : List Event) (server : BackgroundServer) :
    Prop where
  refused : ∀ event ∈ history, event.port? = none
  unchanged : server = first

/-- One start succeeded, between the calls `before` and `after`. The server has its port, and holds
it unless there was a stop since. -/
structure IsStarted (first : BackgroundServer) (before : List Event) (port : ℕ)
    (after : List Event) (server : BackgroundServer) (world : World) : Prop where
  once : ∀ event ∈ before ++ after, event.port? = none
  running : ∃ thread, server =
    { first with running := some ⟨port, !after.any Event.isStop, thread⟩ }
  bound : after.any Event.isStop = false → port ∈ world.bound
  requested : first.requestedPort ≠ 0 → (port : ℤ) = first.requestedPort

section
variable {first server : BackgroundServer} {history before after : List Event} {world : World}
  {port : ℕ}

lemma IsIdle.start (h : IsIdle first history server) (hn : first.running = none) (world : World) :
    IsIdle first (history ++ [.start (server.start world).result]) (server.start world).self ∨
    ∃ port, (server.start world).result = .ok port ∧
      IsStarted first history port [] (server.start world).self (server.start world).world := by
  obtain ⟨hrefused, rfl⟩ := h
  rcases start_cases hn world with ⟨failure, -, hs⟩ | ⟨port, thread, bound, last, hb, hs, hw⟩
  · rw [hs]
    exact Or.inl ⟨List.forall_mem_append.2 ⟨hrefused, List.forall_mem_singleton.2 rfl⟩, rfl⟩
  · rw [hs]
    obtain ⟨-, next, rfl⟩ := World.bind_ok hb
    obtain ⟨log, rfl⟩ := hw
    refine Or.inr ⟨port, rfl, ?_, ⟨thread, rfl⟩, fun _ => ?_, fun hne => ?_⟩
    · rw [List.append_nil]
      exact hrefused
    · exact List.mem_append_right _ (List.mem_singleton.2 rfl)
    · exact World.bind_requested hne (congrArg Prod.fst hb)

lemma IsIdle.stop (h : IsIdle first history server) (hn : first.running = none) (world : World) :
    IsIdle first (history ++ [.stop (server.stop world).result]) (server.stop world).self := by
  obtain ⟨hrefused, rfl⟩ := h
  refine ⟨List.forall_mem_append.2 ⟨hrefused, List.forall_mem_singleton.2 rfl⟩, ?_⟩
  rw [BackgroundServer.stop, hn]

namespace IsStarted

lemma isSome_running (h : IsStarted first before port after server world) :
    server.running.isSome = true := by
  obtain ⟨_, rfl⟩ := h.running
  rfl

lemma heldPorts_eq (h : IsStarted first before port after server world) :
    server.heldPorts = if after.any Event.isStop then [] else [port] := by
  obtain ⟨_, rfl⟩ := h.running
  unfold heldPorts
  cases after.any Event.isStop <;> rfl

lemma once_append (h : IsStarted first before port after server world) {event : Event}
    (hn : event.port? = none) : ∀ other ∈ before ++ (after ++ [event]), other.port? = none := by
  rw [← List.append_assoc]
  exact List.forall_mem_append.2 ⟨h.once, List.forall_mem_singleton.2 hn⟩

lemma start (h : IsStarted first before port after server world) :
    IsStarted first before port (after ++ [.start (server.start world).result])
      (server.start world).self (server.start world).world := by
  rw [start_of_isSome h.isSome_running]
  have hsame (result : Except Failure ℕ) :
      (after ++ [Event.start result]).any Event.isStop = after.any Event.isStop := by
    simp [Event.isStop]
  exact ⟨h.once_append rfl, by rw [hsame]; exact h.running, by rw [hsame]; exact h.bound,
    h.requested⟩

lemma stop (h : IsStarted first before port after server world) (ht : world.IsTimed) :
    IsStarted first before port (after ++ [.stop (server.stop world).result])
      (server.stop world).self (server.stop world).world := by
  obtain ⟨timeout, hread, haccepted⟩ := ht.exists_timeout
  obtain ⟨last, hstop, -⟩ := stop_eq (server.awaits_of_isAccepted hread haccepted)
  rw [hstop]
  have hstopped (result : Except Failure Unit) :
      (after ++ [Event.stop result]).any Event.isStop = true := by
    simp [Event.isStop]
  refine ⟨h.once_append rfl, ?_, fun hnone => ?_, h.requested⟩
  · obtain ⟨thread, rfl⟩ := h.running
    rw [hstopped]
    exact ⟨join thread, rfl⟩
  · rw [hstopped] at hnone
    cases hnone

lemma drift (h : IsStarted first before port after server world) {running : Running}
    (thread : Thread) (hr : server.running = some running) :
    IsStarted first before port after
      { server with running := some { running with thread := thread } } world := by
  refine ⟨h.once, ⟨thread, ?_⟩, h.bound, h.requested⟩
  obtain ⟨_, rfl⟩ := h.running
  obtain rfl := Option.some.inj hr
  rfl

lemma others (h : IsStarted first before port after server world) {later : World}
    (hk : ∀ held ∈ server.heldPorts, held ∈ later.bound) :
    IsStarted first before port after server later := by
  refine ⟨h.once, h.running, fun hnone => hk port ?_, h.requested⟩
  rw [h.heldPorts_eq, hnone]
  exact List.mem_singleton.2 rfl

end IsStarted

/-- Every run is one of a server that no start succeeded on, or of one on which exactly one did. -/
theorem Run.idle_or_started (hn : first.running = none) (h : Run first history server world) :
    IsIdle first history server ∨ ∃ before port after,
      history = before ++ .start (.ok port) :: after ∧
        IsStarted first before port after server world := by
  induction h with
  | new world => exact Or.inl ⟨fun _ he => (List.not_mem_nil he).elim, rfl⟩
  | @start history server world h ih =>
    rcases ih with hidle | ⟨before, port, after, rfl, hstarted⟩
    · rcases hidle.start hn world with hrefused | ⟨port, hresult, hstarted⟩
      · exact Or.inl hrefused
      · exact Or.inr ⟨history, port, [], by rw [hresult], hstarted⟩
    · exact Or.inr ⟨before, port, _, by rw [List.append_assoc, List.cons_append], hstarted.start⟩
  | @stop history server world h ht ih =>
    rcases ih with hidle | ⟨before, port, after, rfl, hstarted⟩
    · exact Or.inl (hidle.stop hn world)
    · exact Or.inr ⟨before, port, _, by rw [List.append_assoc, List.cons_append], hstarted.stop ht⟩
  | drift h running thread hr ih =>
    rcases ih with ⟨-, rfl⟩ | ⟨before, port, after, hhistory, hstarted⟩
    -- Only a server that was started has a thread to change.
    · rw [hn] at hr
      cases hr
    · exact Or.inr ⟨before, port, after, hhistory, hstarted.drift thread hr⟩
  | others h later hk ih =>
    rcases ih with hidle | ⟨before, port, after, hhistory, hstarted⟩
    · exact Or.inl hidle
    · exact Or.inr ⟨before, port, after, hhistory, hstarted.others hk⟩

/-- Whether the thread of a server has crashed. -/
def hasCrashed (server : BackgroundServer) : Bool :=
  match server.running with
  | some ⟨_, _, .crashed _⟩ => true
  | _ => false

/-- What the calls do on a server that was not started: it has no port yet, a stop does nothing, and
a start binds a free port, or leaves everything as it is where no port can be bound. That is told as
a failed start, unless the host cannot be handed to the operating system. -/
structure IsUnstarted (server : BackgroundServer) (world : World) : Prop where
  port : ∃ failure, server.port = .error failure ∧ failure.family = "HarnessStateError"
  stop : server.stop world = ⟨.ok (), server, world⟩
  start : (∃ failure, (world.bind server.host server.requestedPort).1 = .error failure ∧
      server.start world = ⟨.error failure, server, world⟩ ∧
      (failure.family = "ResourceStartupError" ∨
        ∃ fault, world.hostFault? server.host = some fault ∧ failure = .wrongType fault)) ∨
    ∃ port thread after, (world.bind server.host server.requestedPort).1 = .ok port ∧
      server.start world = ⟨.ok port, server.withThread port thread, after⟩ ∧
      port ∉ world.bound ∧ after.bound = world.bound ++ [port]

/-- What the calls do on a server that was started. It keeps its port and is not started again. A
stop gives back what is held in any case, and it fails if the thread goes on or had crashed. -/
structure IsUsed (server : BackgroundServer) (world : World) (port : ℕ) : Prop where
  port : server.port = .ok port
  start : ∃ failure, server.start world = ⟨.error failure, server, world⟩ ∧
    failure.family = "HarnessStateError"
  stop : world.IsTimed → (server.stop world).self.heldPorts = [] ∧
    (world.releaseAll server.heldPorts).SameState (server.stop world).world ∧
    ((∃ failure, (server.stop world).result = .error failure) ↔
      (server.stop world).self.isRunning = true ∨ server.hasCrashed = true) ∧
    ∀ failure, (server.stop world).result = .error failure →
      failure.family = "ResourceTeardownError"

lemma isUnstarted_of_running (hn : server.running = none)
    (hr : 0 ≤ server.requestedPort ∧ server.requestedPort ≤ 65535) (world : World) :
    server.IsUnstarted world := by
  refine ⟨⟨.notStarted server.name, ?_, rfl⟩, ?_, ?_⟩
  · rw [BackgroundServer.port, hn]
  · rw [BackgroundServer.stop, hn]
  · rcases start_cases hn world with ⟨failure, hb, hs⟩ | ⟨port, thread, bound, last, hb, hs, hw⟩
    · have hresult := congrArg Prod.fst hb
      rcases World.bind_error hresult with ⟨fault, rfl⟩ | hwrong | ⟨-, hrange⟩
      · exact Or.inl ⟨_, hresult, hs, Or.inl rfl⟩
      · exact Or.inl ⟨_, hresult, hs, Or.inr hwrong⟩
      · omega
    · have hresult := congrArg Prod.fst hb
      obtain ⟨hfree, next, rfl⟩ := World.bind_ok hb
      obtain ⟨log, rfl⟩ := hw
      exact Or.inr ⟨port, thread, _, hresult, hs, hfree, rfl⟩

/-- A stop has a failure to report where the thread goes on after it was waited for, or had
crashed. -/
lemma isSome_stopFailure? (server : BackgroundServer) (timeout : Number.Binary64) :
    (server.stopFailure? timeout).isSome = (server.stopped.isRunning || server.hasCrashed) := by
  unfold stopFailure? isRunning stopped hasCrashed
  rcases server.running with _ | ⟨port, holds, thread⟩
  · rfl
  · cases thread <;> rfl

lemma IsStarted.isUsed (h : IsStarted first before port after server world) :
    server.IsUsed world port := by
  refine ⟨?_, ⟨_, start_of_isSome h.isSome_running world, rfl⟩, fun ht => ?_⟩
  · obtain ⟨_, rfl⟩ := h.running
    rfl
  · obtain ⟨timeout, hread, haccepted⟩ := ht.exists_timeout
    obtain ⟨last, hstop, hlast⟩ := stop_eq (server.awaits_of_isAccepted hread haccepted)
    have hreported := server.isSome_stopFailure? timeout
    rw [hstop]
    refine ⟨server.stopped_heldPorts, hlast, ?_⟩
    rw [← Bool.or_eq_true, ← hreported]
    cases hfailure : server.stopFailure? timeout with
    | none => simp [answer]
    | some failure =>
      obtain ⟨fault, causes, rfl⟩ := exists_of_stopFailure? hfailure
      refine ⟨by simp [answer], fun other hother => ?_⟩
      rw [← Except.error.inj hother]
      rfl

/-- A server with a port in the range, after any starts and stops, in any worlds and whatever its
thread did, as long as the timeout of each stop could be used. Either no start succeeded, and the
server is as it was made; or exactly one did, and the server keeps the port that it bound then, is
not started again, and holds the port unless it was stopped since. -/
theorem run_starts_once (environment : Environment) (name : String) (host : Option String)
    {requested : ℤ} (hr : 0 ≤ requested ∧ requested ≤ 65535)
    (h : Run (new environment name requested host) history server world) :
    ((∀ event ∈ history, event.port? = none) ∧
      server = new environment name requested host ∧ server.IsUnstarted world) ∨
    ∃ (before : List Event) (port : ℕ) (after : List Event),
      history = before ++ .start (.ok port) :: after ∧
      (∀ event ∈ before ++ after, event.port? = none) ∧
      (requested ≠ 0 → (port : ℤ) = requested) ∧
      server.IsUsed world port ∧
      server.heldPorts = (if after.any Event.isStop then [] else [port]) ∧
      ∀ held ∈ server.heldPorts, held ∈ world.bound := by
  rcases h.idle_or_started rfl with ⟨hrefused, rfl⟩ | ⟨before, port, after, hhistory, hstarted⟩
  · exact Or.inl ⟨hrefused, rfl, isUnstarted_of_running rfl hr world⟩
  · refine Or.inr ⟨before, port, after, hhistory, hstarted.once, hstarted.requested,
      hstarted.isUsed, hstarted.heldPorts_eq, fun held hheld => ?_⟩
    rw [hstarted.heldPorts_eq] at hheld
    cases hstop : after.any Event.isStop with
    | true => simp [hstop] at hheld
    | false =>
      rw [hstop] at hheld
      rw [List.mem_singleton.1 hheld]
      exact hstarted.bound hstop

end

/-- A server is refused its port while others hold it. It is started once they gave it back, and a
stop gives the port back again although the thread never finishes; there is no other start. -/
theorem hanging_run_starts_once :
    let first := new {} "issuer" 8181 none
    let refused := first.start { takenPorts := [8181] }
    let started := refused.self.start { behaviours := [("issuer", .hangs)] }
    let stopped := started.self.stop started.world
    refused.result = .error (.bind "localhost" 8181 .addressInUse) ∧
    started.result = .ok 8181 ∧ started.world.bound = [8181] ∧
    stopped.result = .error (.teardown (.unfinished "issuer" 8181 (.ofInt 5)) []) ∧
    stopped.world.bound = [] ∧ stopped.self.IsUsed stopped.world 8181 := by
  refine ⟨rfl, rfl, rfl, rfl, rfl, ?_⟩
  have hnew : Run (new {} "issuer" 8181 none) [] _ { takenPorts := [8181] } := .new _
  have hrun := ((hnew.start.others { behaviours := [("issuer", .hangs)] }
    fun _ hheld => (List.not_mem_nil hheld).elim).start).stop (Or.inl rfl)
  rcases run_starts_once {} "issuer" none (by decide) hrun with ⟨hnone, -⟩ |
    ⟨_, port, _, -, -, hrequested, hused, -⟩
  · cases hnone _ (List.mem_append_left _ (List.mem_append_right _ (List.mem_singleton_self _)))
  · obtain rfl : port = 8181 := by
      have hh := hrequested (by decide)
      omega
    exact hused

end BackgroundServer

end MockIssuer
