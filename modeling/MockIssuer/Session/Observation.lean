import MockIssuer.Session.Basic

/-!
# Observations

What servers, hosts and harnesses have left in the world: bound ports, key pairs asked for, working
areas, loaded modules and entries on the search path.
-/
namespace MockIssuer

structure Observation where
  openPorts : List Nat
  /-- The sizes of the key pairs asked for. -/
  generated : List Nat
  workingAreas : List String
  /-- Those of the modules asked about that are loaded. -/
  modules : List String
  entryModules : Nat
  pathEntries : Nat
  deriving DecidableEq

/-- What can be seen of a world, with some modules to look for. -/
def World.observe (world : World) (modules : List String) : Observation where
  openPorts := world.bound.mergeSort
  generated := world.generated
  workingAreas :=
    (world.files.topDirectories AppHost.areaStart).mergeSort fun a b => decide (a ≤ b)
  modules := modules.filter fun name => (world.modules.find? (.named name)).isSome
  entryModules := world.modules.entryCount
  pathEntries := world.searchPath.length

end MockIssuer
