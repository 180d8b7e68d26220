import MockIssuer.Proofs.FreePorts
import MockIssuer.Proofs.SetUp
import MockIssuer.World.Sockets

/-!
# Ports that cannot be bound

Starting a server for the first time answers a port that nobody held, or fails and leaves everything
as it was. The failure is meant to be a failed start, and the socket is meant to be closed then.
That holds of whatever the operating system refuses, since one handler closes the socket and reports
the refusal. What is no host and a port outside the range pass by this handler (`fresh_start`): the
failure comes out as it is, and nobody closes the socket.
-/
namespace MockIssuer

namespace World

/-- A port outside the range. At a host without an address, only one that fits no word is found out
before the host is. -/
def IsOutOfRange (world : World) (host : String) (port : ℤ) : Prop :=
  fitsPortWord port = false ∨
    world.badHosts.contains host = false ∧ (port < 0 ∨ 65535 < port)

lemma IsOutOfRange.bounds {world : World} {host : String} {port : ℤ}
    (h : world.IsOutOfRange host port) : port < 0 ∨ 65535 < port := by
  rcases h with hword | ⟨-, hrange⟩
  · simp only [fitsPortWord, Bool.and_eq_false_iff, decide_eq_false_iff_not] at hword
    omega
  · exact hrange

/-- An address that can be handed to the operating system is bound or refused by it. -/
lemma bindAddress_of_not_isOutOfRange {world : World} {host : String} {port : ℤ}
    (hh : world.hostFault? host = none) (hr : ¬world.IsOutOfRange host port) :
    (∃ bound after, world.bindAddress host port = (.ok bound, after)) ∨
      ∃ fault, world.bindAddress host port = (.error (.refused fault), world) := by
  obtain ⟨hword, hrange⟩ := not_or.1 hr
  rw [Bool.not_eq_false] at hword
  simp only [bindAddress, hh, hword, Bool.not_true, Bool.false_eq_true, if_false]
  split_ifs with hbad hout
  · exact Or.inr ⟨_, rfl⟩
  · exact absurd ⟨Bool.eq_false_iff.2 hbad, hout⟩ hrange
  · exact Or.inr ⟨_, rfl⟩
  · exact Or.inl ⟨_, _, rfl⟩
  · exact Or.inr ⟨_, rfl⟩
  · exact Or.inl ⟨_, _, rfl⟩

lemma bindAddress_of_isOutOfRange {world : World} {host : String} {port : ℤ}
    (hh : world.hostFault? host = none) (hr : world.IsOutOfRange host port) :
    world.bindAddress host port = (.error (.outOfRange .port), world) := by
  have hbounds := hr.bounds
  simp only [bindAddress, hh]
  rcases hr with hword | ⟨hbad, -⟩
  · rw [hword, Bool.not_false, if_pos rfl]
  · simp only [hbad, Bool.false_eq_true, if_false, if_pos hbounds, ite_self]

/-- A socket is bound, or it is closed because the operating system refused, or it stays open
because the operating system was never asked. -/
lemma listen_cases (world : World) (host : String) (port : ℤ) :
    (world.hostFault? host = none ∧ ¬world.IsOutOfRange host port ∧
      ((∃ bound after, world.listen host port = (.ok bound, ⟨some bound, true⟩, after)) ∨
        ∃ fault, world.listen host port =
          (.error (.bind host port fault), ⟨none, false⟩, world))) ∨
    (∃ fault, world.hostFault? host = some fault ∧
      world.listen host port = (.error (.wrongType fault), ⟨none, true⟩, world)) ∨
    (world.hostFault? host = none ∧ world.IsOutOfRange host port ∧
      world.listen host port = (.error (.outOfRange .port), ⟨none, true⟩, world)) := by
  unfold listen
  rcases hh : world.hostFault? host with _ | fault
  · by_cases hr : world.IsOutOfRange host port
    · rw [bindAddress_of_isOutOfRange hh hr]
      exact Or.inr (Or.inr ⟨rfl, hr, rfl⟩)
    · rcases bindAddress_of_not_isOutOfRange hh hr with ⟨bound, after, h⟩ | ⟨fault, h⟩
      all_goals rw [h]
      · exact Or.inl ⟨rfl, hr, Or.inl ⟨bound, after, rfl⟩⟩
      · exact Or.inl ⟨rfl, hr, Or.inr ⟨fault, rfl⟩⟩
  · simp only [bindAddress, hh]
    exact Or.inr (Or.inl ⟨fault, rfl, rfl⟩)

lemma bind_of_listen {world after : World} {host : String} {port : ℤ}
    {result : Except Failure ℕ} {socket : Socket}
    (h : world.listen host port = (result, socket, after)) :
    world.bind host port = (result, after) := by
  rw [bind, h]

end World

namespace MockServer

/-- A start that takes a port: nobody held it, it is bound from then on beside what was bound, and
the server says that it has it. -/
structure Takes (mock : MockServer) (world : World) (port : ℕ) : Prop where
  result : (mock.start world).result = .ok port
  free : world.isHeld port = false
  bound : (mock.start world).world.bound = world.bound ++ [port]
  port : (mock.start world).self.port = .ok port

/-- A start that fails: the world stays as it is, its ports among it, and the server has no port. -/
structure Refused (mock : MockServer) (world : World) (failure : Failure) : Prop where
  result : (mock.start world).result = .error failure
  unchanged : (mock.start world).world = world
  port : (mock.start world).self.port = .error (.notStarted serverName)

variable (environment : Environment) (port : ℤ) (host : Option String) (world : World)

/-- The socket that the first start of a server opens. -/
def socketOf (mock : MockServer) (world : World) : Socket :=
  (world.listen mock.server.host mock.server.requestedPort).2.1

lemma takes_of_bind {bound : ℕ} {after : World}
    (h : world.bind (environment.bindHost host) port = (.ok bound, after)) :
    (new environment port host).Takes world bound := by
  have hnew : (new environment port host).server.running = none := rfl
  rcases start_cases hnew world with ⟨failure, hbind, -⟩ |
    ⟨bound', thread, after', started, hbind, hstart, log, rfl⟩
  · cases hbind.symm.trans h
  · obtain ⟨hok, -⟩ := Prod.mk.inj (hbind.symm.trans h)
    obtain rfl := Except.ok.inj hok
    obtain ⟨hfree, next, rfl⟩ := World.bind_free hbind
    exact ⟨by rw [hstart], hfree, by rw [hstart], by rw [hstart]; rfl⟩

lemma refused_of_bind {failure : Failure}
    (h : world.bind (environment.bindHost host) port = (.error failure, world)) :
    (new environment port host).Refused world failure := by
  have hnew : (new environment port host).server.running = none := rfl
  rcases start_cases hnew world with ⟨failure', hbind, hstart⟩ | ⟨_, _, _, _, hbind, -, -⟩
  · obtain ⟨herror, -⟩ := Prod.mk.inj (hbind.symm.trans h)
    obtain rfl := Except.error.inj herror
    exact ⟨by rw [hstart], by rw [hstart], by rw [hstart]; rfl⟩
  · cases hbind.symm.trans h

/-- The first start of a server, whatever host and port it was given and whatever is bound. It takes
a port that nobody held, or it is refused with a failed start and leaves no socket open. Only what is
no host, and a port outside the range, are refused in another way: the failure comes out as it is,
and the socket is left open. -/
theorem fresh_start (environment : Environment) (port : ℤ) (host : Option String) (world : World) :
    let mock := new environment port host
    let hostFault := world.hostFault? (environment.bindHost host)
    let past := world.IsOutOfRange (environment.bindHost host) port
    (hostFault = none ∧ ¬past ∧
      ((∃ bound, mock.Takes world bound ∧ mock.socketOf world = ⟨some bound, true⟩) ∨
        ∃ failure, mock.Refused world failure ∧ failure.family = "ResourceStartupError" ∧
          mock.socketOf world = ⟨none, false⟩)) ∨
    (∃ fault, hostFault = some fault ∧ mock.Refused world (.wrongType fault) ∧
      Failure.family (.wrongType fault) = "TypeError" ∧ mock.socketOf world = ⟨none, true⟩) ∨
    (hostFault = none ∧ past ∧ mock.Refused world (.outOfRange .port) ∧
      Failure.family (.outOfRange .port) = "OverflowError" ∧
      mock.socketOf world = ⟨none, true⟩) := by
  intro mock hostFault past
  have hsocket : mock.socketOf world = (world.listen (environment.bindHost host) port).2.1 := rfl
  rw [hsocket]
  rcases world.listen_cases (environment.bindHost host) port with
    ⟨hnone, hpast, ⟨bound, after, hlisten⟩ | ⟨fault, hlisten⟩⟩ | ⟨fault, hfault, hlisten⟩ |
      ⟨hnone, hpast, hlisten⟩
  all_goals
    have hbind := World.bind_of_listen hlisten
    rw [hlisten]
  · have htakes := takes_of_bind environment port host world hbind
    exact Or.inl ⟨hnone, hpast, Or.inl ⟨bound, htakes, rfl⟩⟩
  · have hrefused := refused_of_bind environment port host world hbind
    exact Or.inl ⟨hnone, hpast, Or.inr ⟨_, hrefused, rfl, rfl⟩⟩
  · have hrefused := refused_of_bind environment port host world hbind
    exact Or.inr (Or.inl ⟨fault, hfault, hrefused, rfl, rfl⟩)
  · have hrefused := refused_of_bind environment port host world hbind
    exact Or.inr (Or.inr ⟨hnone, hpast, hrefused, rfl, rfl⟩)

/-- One port past the last one: the failure is no failed start, and the socket is left open. -/
theorem port_past_range :
    let mock := new {} 65536 none
    (mock.start {}).result = .error (.outOfRange .port) ∧
    Failure.family (.outOfRange .port) ≠ "ResourceStartupError" ∧
    (mock.socketOf {}).isOpen = true :=
  ⟨by rfl, by decide, by rfl⟩

end MockServer

end MockIssuer
