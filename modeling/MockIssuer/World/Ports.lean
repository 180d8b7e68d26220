import MockIssuer.World.Basic

/-!
# Ports

Which ports are held, where the search for a free one ends, and how a port is given back. The
search never goes back.
-/
namespace MockIssuer.World

/-- Whether a port is held by anyone. -/
def isHeld (world : World) (port : Nat) : Bool :=
  world.bound.contains port || world.takenPorts.contains (port : Int)

/-- The first port from `port` on that nobody holds, among the first `fuel`. -/
def firstFree (world : World) : Nat → Nat → Nat
  | 0, port => port
  | fuel + 1, port => if world.isHeld port then firstFree world fuel (port + 1) else port

/-- The next free port; one more than the number of held ports are enough to look at. -/
def freePort (world : World) : Nat :=
  world.firstFree (world.bound.length + world.takenPorts.length + 1) world.nextPort

def hold (world : World) (port : Nat) : World :=
  { world with bound := world.bound ++ [port] }

/-- Gives a port back. -/
def release (world : World) (port : Nat) : World :=
  { world with bound := world.bound.filter (· ≠ port) }

/-- Giving a port back leaves all others bound. -/
@[simp] theorem mem_bound_release {world : World} {port other : Nat} :
    other ∈ (world.release port).bound ↔ other ∈ world.bound ∧ other ≠ port := by
  simp [release]

end MockIssuer.World
