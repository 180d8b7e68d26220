import MockIssuer.World.Ports

/-!
# Sockets

How a port is bound, step by step. A socket is opened and bound to an address. A refusal by the
operating system closes it again and is told as a failed start. A host that cannot be handed to the
operating system and a port outside the range are no such refusals: these failures come out as they
are, and the socket is left open.
-/
namespace MockIssuer

/-- A socket: the port that it is bound to, if it is, and whether it is open. -/
structure Socket where
  port : Option Nat := none
  isOpen : Bool := true
  deriving DecidableEq

/-- Why a socket is not bound to an address. -/
inductive AddressFault where
  | refused (fault : SystemFault)
  | wrongHost (fault : TypeFault)
  | outOfRange (fault : RangeFault)

namespace World

/-- Why a text cannot be handed to the operating system as a host. A text outside ASCII is encoded
first. -/
def hostFault? (world : World) (host : String) : Option TypeFault :=
  if host.toList.any (0x80 ≤ ·.toNat) && world.unencodedHosts.contains host then
    some .unencodedHost
  else if host.toList.contains (Char.ofNat 0) then some .nulInHost
  else none

/-- Ports are handed to the operating system as signed words of 32 bits. -/
def fitsPortWord (port : Int) : Bool := -0x80000000 ≤ port && port < 0x80000000

/-- Binds a socket to an address and answers its port. What is no host is found first, then a port
that fits no word, then a host without an address, a port outside the range, one that may not be
bound and one that is held. Port zero stands for the next free port. -/
def bindAddress (world : World) (host : String) (port : Int) : Except AddressFault Nat × World :=
  let refuse (fault : SystemFault) : Except AddressFault Nat × World :=
    (.error (.refused fault), world)
  match world.hostFault? host with
  | some fault => (.error (.wrongHost fault), world)
  | none =>
    if !fitsPortWord port then (.error (.outOfRange .port), world)
    else if world.badHosts.contains host then refuse .unknownHost
    else if port < 0 ∨ 65535 < port then (.error (.outOfRange .port), world)
    else if world.deniedPorts.contains port then refuse .permissionDenied
    else if port = 0 then
      let free := world.freePort
      (.ok free, { world.hold free with nextPort := free + 1 })
    else if world.isHeld port.toNat then refuse .addressInUse
    else (.ok port.toNat, world.hold port.toNat)

/-- Opens a socket and binds it. Only a refusal by the operating system closes it again. -/
def listen (world : World) (host : String) (port : Int) :
    Except Failure Nat × Socket × World :=
  let socket : Socket := {}
  match world.bindAddress host port with
  | (.ok bound, world) => (.ok bound, { socket with port := some bound }, world)
  | (.error (.refused fault), world) =>
    (.error (.bind host port fault), { socket with isOpen := false }, world)
  | (.error (.wrongHost fault), world) => (.error (.wrongType fault), socket, world)
  | (.error (.outOfRange fault), world) => (.error (.outOfRange fault), socket, world)

/-- Binds a port of a host and answers the port. -/
def bind (world : World) (host : String) (port : Int) : Except Failure Nat × World :=
  let (result, _, world) := world.listen host port
  (result, world)

end World

end MockIssuer
