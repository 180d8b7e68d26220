import MockIssuer.Files.FileSystem

/-!
# Loaded modules

The modules that are loaded now, in the order in which they were loaded, each with the place that it
came from. The module that a web application starts from is loaded under a number of its own, its
siblings under their names.
-/
namespace MockIssuer

inductive ModuleName where
  | entry (number : Nat)
  | named (name : String)
  deriving DecidableEq

/-- What a name of a loaded module stands for. -/
inductive Bound where
  /-- An application with its text and the values of the modules that it imported, as far as those
  have one. -/
  | application (text : String) (imported : List (Option Json))
  | absent
  | value (value : Json)

/-- Where a module came from. -/
inductive ModuleSource where
  | file (location : Location)
  /-- The directories of a package that has no file. A module that came with the process has none. -/
  | portions (locations : List Location)
  deriving DecidableEq

structure LoadedModule where
  name : ModuleName
  source : ModuleSource
  names : List (String × Bound)

/-- The file of a module that was loaded from one. -/
def LoadedModule.file (module : LoadedModule) : Option Location :=
  match module.source with
  | .file location => some location
  | .portions _ => none

/-- The places that a module came from. -/
def LoadedModule.places (module : LoadedModule) : List Location :=
  match module.source with
  | .file location => [location]
  | .portions locations => locations

/-- The value that a module offers to the modules that import it. -/
def LoadedModule.value? (module : LoadedModule) : Option Json :=
  match module.names.lookup "VALUE" with
  | some (.value value) => some value
  | _ => none

/-- Whether a module came from a file at or below a location. -/
def LoadedModule.isBelow (module : LoadedModule) (location : Location) : Bool :=
  module.file.any (location.isPrefixOf ·)

/-- Whether a module came from any place at or below a location. -/
def LoadedModule.isFrom (module : LoadedModule) (location : Location) : Bool :=
  module.places.any (location.isPrefixOf ·)

abbrev ModuleTable := List LoadedModule

namespace ModuleTable

def find? (modules : ModuleTable) (name : ModuleName) : Option LoadedModule :=
  List.find? (·.name = name) modules

/-- Registers a module behind all others. -/
def register (modules : ModuleTable) (module : LoadedModule) : ModuleTable :=
  modules ++ [module]

/-- Sets what the names of a registered module stand for. -/
def define (modules : ModuleTable) (name : ModuleName) (names : List (String × Bound)) :
    ModuleTable :=
  modules.map fun module => if module.name = name then { module with names := names } else module

def unregister (modules : ModuleTable) (name : ModuleName) : ModuleTable :=
  modules.filter (·.name ≠ name)

/-- The modules that came from files at or below a location. -/
def below (modules : ModuleTable) (location : Location) : ModuleTable :=
  modules.filter (·.isBelow location)

/-- The table without the modules from files at or below a location. -/
def dropBelow (modules : ModuleTable) (location : Location) : ModuleTable :=
  modules.filter (!·.isBelow location)

/-- The number of loaded modules that web applications start from. -/
def entryCount (modules : ModuleTable) : Nat :=
  modules.countP fun module => match module.name with
    | .entry _ => true
    | .named _ => false

end ModuleTable

end MockIssuer
