import MockIssuer.World.Basic

/-!
# Loading modules

A module is registered, then its program runs; a sibling whose program fails is unregistered again.
A plain name is looked up among the loaded modules first and then in the directories of the search
path, in order: the name stands for the first package or module of that name with a file, or, where
there is none, for a package of all directories of that name, which has no program. Imports nest, so
loading takes fuel; a name that is being loaded counts as loaded, which bounds the nesting by the
number of files.
-/
namespace MockIssuer

/-- The file of a module in a directory. -/
def moduleFile (directory : Location) (name : String) : Location :=
  directory ++ [name ++ ".py"]

/-- The file of a package in a directory. -/
def packageFile (directory : Location) (name : String) : Location :=
  directory ++ [name, "__init__.py"]

/-- The files that a name can stand for in a directory, in the order of the search. -/
def candidates (directory : Location) (name : String) : List Location :=
  [packageFile directory name, moduleFile directory name]

/-- The program in a file; a file without one defines nothing. -/
def FileSystem.program (files : FileSystem) (location : Location) : Program :=
  match files.at? location with
  | some (.module program) => program
  | _ => ⟨[], .defines []⟩

namespace World

/-- The first file of a name on the search path. -/
def findFile? (world : World) (name : String) : Option Location :=
  (world.searchPath.flatMap (candidates · name)).find? world.files.isFile

/-- The directories of a name on the search path. -/
def portions (world : World) (name : String) : List Location :=
  (world.searchPath.map (· ++ [name])).filter world.files.isDirectory

/-- What a name stands for on the search path. -/
def findModule? (world : World) (name : String) : Option ModuleSource :=
  match world.findFile? name, world.portions name with
  | some file, _ => some (.file file)
  | none, [] => none
  | none, directories => some (.portions directories)

/-- Puts a directory on the search path, behind at most `position` others. -/
def enterPath (world : World) (position : Nat) (directory : Location) : World :=
  { world with
    searchPath := world.searchPath.take position ++ directory :: world.searchPath.drop position }

/-- Takes the first entry for a directory off the search path. -/
def leavePath (world : World) (directory : Location) : World :=
  { world with searchPath := world.searchPath.erase directory }

/-- What a definition stands for in a module that imported the given values. -/
def bindName (imported : List (Option Json)) : String × Definition → String × Bound
  | (name, .application text) => (name, .application text imported)
  | (name, .absent) => (name, .absent)
  | (name, .value value) => (name, .value value)

/-- Ends a program: its names are defined, or it fails. -/
def finish (world : World) (module : ModuleName) (imported : List (Option Json)) :
    Ending → Except Failure Unit × World
  | .defines names =>
    (.ok (), { world with modules := world.modules.define module (names.map (bindName imported)) })
  | .raises family message => (.error (Failure.raised family [.string message] []), world)

def noModule (name : String) : Failure :=
  .foreign "ModuleNotFoundError" [.string ("No module named " ++ quoted name)]

mutual

/-- Runs what is left of the program of a module in a directory. -/
def runSteps (fuel : Nat) (world : World) (module : ModuleName) (directory : Location)
    (ending : Ending) (imported : List (Option Json)) (steps : List LoadStep) :
    Except Failure Unit × World :=
  match fuel, steps with
  | 0, _ => (.error (.foreign "RecursionError" []), world)
  | _, [] => world.finish module imported ending
  | fuel + 1, .importModule name :: rest =>
    match importModule fuel world name with
    | (.error failure, world) => (.error failure, world)
    | (.ok value, world) =>
      runSteps fuel world module directory ending (imported ++ [value]) rest
  | fuel + 1, .leavePath :: rest =>
    runSteps fuel (world.leavePath directory) module directory ending imported rest
  | fuel + 1, .enterPath position :: rest =>
    runSteps fuel (world.enterPath position directory) module directory ending imported rest

/-- Imports a module by name and answers the value that it offers. -/
def importModule (fuel : Nat) (world : World) (name : String) :
    Except Failure (Option Json) × World :=
  match fuel, world.modules.find? (.named name), world.findModule? name with
  | 0, _, _ => (.error (.foreign "RecursionError" []), world)
  | _, some module, _ => (.ok module.value?, world)
  | _, none, none => (.error (noModule name), world)
  | _ + 1, none, some (.portions directories) =>
    (.ok none, { world with
      modules := world.modules.register ⟨.named name, .portions directories, []⟩ })
  | fuel + 1, none, some (.file file) =>
    let program := world.files.program file
    let registered :=
      { world with modules := world.modules.register ⟨.named name, .file file, []⟩ }
    match runSteps fuel registered (.named name) file.dropLast program.ending [] program.steps with
    | (.error failure, world) =>
      (.error failure, { world with modules := world.modules.unregister (.named name) })
    | (.ok (), world) => (.ok ((world.modules.find? (.named name)).bind (·.value?)), world)

end

/-- More steps than all programs in the files have together. -/
def loadFuel (world : World) : Nat :=
  2 * (world.files.foldl (fun n (_, entry) => n + match entry with
    | .module program => program.steps.length + 2
    | _ => 0) 2)

/-- Loads the module that a web application starts from, with its directory on the search path
while the program runs. The module stays registered if it fails. -/
def loadEntry (world : World) (file : Location) :
    Nat × Except Failure Unit × World :=
  let number := world.entries + 1
  let directory := file.dropLast
  let program := world.files.program file
  let registered :=
    { world with
      entries := number
      modules := world.modules.register ⟨.entry number, .file file, []⟩ }
  let (result, world) := runSteps world.loadFuel (registered.enterPath 0 directory)
    (.entry number) directory program.ending [] program.steps
  (number, result, world.leavePath directory)

end World

end MockIssuer
