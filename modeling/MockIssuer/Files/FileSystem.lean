import MockIssuer.Encoding.Bytes
import MockIssuer.Failure.Basic
import MockIssuer.Files.Path
import MockIssuer.Host.Program
import MockIssuer.Text.Utf8

/-!
# Files

A tree of directories and files below one directory, as entries under their locations. A location
is the run of components below the top. Copying a tree adds an entry for each of its entries;
removing one takes away the entries at and below it, so both leave everything else as it was.
-/
namespace MockIssuer

abbrev Location := List String

inductive Entry where
  | directory
  | file (contents : Bytes)
  /-- A file that holds a module. -/
  | module (program : Program)

abbrev FileSystem := List (Location × Entry)

namespace FileSystem

def at? (files : FileSystem) (location : Location) : Option Entry :=
  if location.isEmpty then some .directory else files.lookup location

def isDirectory (files : FileSystem) (location : Location) : Bool :=
  match files.at? location with
  | some .directory => true
  | _ => false

def isFile (files : FileSystem) (location : Location) : Bool :=
  match files.at? location with
  | some (.file _) | some (.module _) => true
  | _ => false

/-- Sets the entry at a location. -/
def put (files : FileSystem) (location : Location) (entry : Entry) : FileSystem :=
  files.filter (·.1 ≠ location) ++ [(location, entry)]

/-- Adds the directories above a location that are missing. -/
def addParents (files : FileSystem) (location : Location) : FileSystem :=
  (List.range location.length).foldl (fun files n =>
    let parent := location.take n
    if (files.at? parent).isSome then files else files.put parent .directory) files

/-- Writes an entry and the directories above it. -/
def write (files : FileSystem) (location : Location) (entry : Entry) : FileSystem :=
  (files.addParents location).put location entry

/-- The entries at and below a location, under their components below it. -/
def below (files : FileSystem) (location : Location) : FileSystem :=
  files.filterMap fun (other, entry) =>
    if location.isPrefixOf other then some (other.drop location.length, entry) else none

/-- Takes away the entries at and below a location. -/
def removeTree (files : FileSystem) (location : Location) : FileSystem :=
  files.filter fun (other, _) => !location.isPrefixOf other

/-- A filter that keeps a location does not change what is found there. -/
theorem lookup_filter {p : Location × Entry → Bool} {location : Location} (files : FileSystem)
    (h : ∀ entry, p (location, entry) = true) :
    (files.filter p).lookup location = files.lookup location := by
  induction files with
  | nil => rfl
  | cons first rest ih =>
    obtain ⟨other, entry⟩ := first
    by_cases same : location = other
    · subst same
      simp [h]
    · have apart : (location == other) = false := by simpa using same
      by_cases kept : p (other, entry) <;> simp [List.lookup_cons, kept, apart, ih]

/-- A filter that refuses a location leaves nothing there. -/
theorem lookup_filter_eq_none {p : Location × Entry → Bool} {location : Location}
    (files : FileSystem) (h : ∀ entry, p (location, entry) = false) :
    (files.filter p).lookup location = none := by
  rw [List.lookup_eq_none_iff]
  intro pair member
  obtain ⟨_, kept⟩ := List.mem_filter.1 member
  simp only [bne_iff_ne, ne_eq]
  rintro rfl
  simp_all

/-- What a location holds once it has been set. -/
@[simp] theorem at?_put_self (files : FileSystem) {location : Location} (entry : Entry)
    (h : location ≠ []) : (files.put location entry).at? location = some entry := by
  simp only [at?, put, List.isEmpty_iff, h, if_false, List.lookup_append]
  rw [lookup_filter_eq_none files (by simp)]
  simp

/-- Setting one location leaves the others as they are. -/
theorem at?_put_of_ne (files : FileSystem) {location other : Location} (entry : Entry)
    (h : other ≠ location) : (files.put location entry).at? other = files.at? other := by
  have apart : (other == location) = false := by simpa using h
  simp only [at?, put, List.lookup_append]
  rw [lookup_filter files (by simp [h])]
  simp [List.lookup_cons, apart]

/-- Removing a tree takes away the entries at and below its location and leaves all others. -/
theorem at?_removeTree (files : FileSystem) (location : Location) {other : Location}
    (h : other ≠ []) : (files.removeTree location).at? other =
      if location.isPrefixOf other then none else files.at? other := by
  simp only [at?, removeTree, List.isEmpty_iff, h, if_false]
  split
  case isTrue below => exact lookup_filter_eq_none files (by simp [below])
  case isFalse beside => exact lookup_filter files (by simp [beside])

/-- Copies the tree at `source` to a location at which there is nothing. -/
def copyTree (files : FileSystem) (source target : Location) : FileSystem :=
  ((files.below source).foldl (fun files (rest, entry) => files.put (target ++ rest) entry)
    (files.write target .directory))

/-- The longest name of a file, and the longest text of a path, in bytes. -/
def nameLimit : Nat := 255

def pathLimit : Nat := 4095

def byteLength (text : String) : Nat := (Text.encodeUtf8 text.toList).length

/-- Why a path leads to no location of the tree. -/
inductive Obstacle where
  | missing
  | notADirectory
  | tooLong
  /-- It leads to a directory above the top. -/
  | above
  deriving DecidableEq

/-- What components meet from a directory above the top, where no name is known. -/
def Obstacle.aboveTop : List String → Obstacle
  | [] => .above
  | name :: rest =>
    if name = ".." then aboveTop rest
    else if nameLimit < byteLength name then .tooLong
    else .missing

/-- The location that components lead to from a directory, one step at a time. -/
def walk (files : FileSystem) : Location → List String → Except Obstacle Location
  | location, [] => .ok location
  | location, name :: rest =>
    if !files.isDirectory location then .error .notADirectory
    else if name = ".." then
      if location.isEmpty then .error (.aboveTop rest) else walk files location.dropLast rest
    else if nameLimit < byteLength name then .error .tooLong
    else if (files.at? (location ++ [name])).isNone then .error .missing
    else walk files (location ++ [name]) rest

/-- The location that a path leads to. An absolute path starts above the top. -/
def find? (files : FileSystem) (current : Location) (path : Path) : Except Obstacle Location :=
  if pathLimit < byteLength path.text then .error .tooLong
  else if path.isAbsolute then .error (.aboveTop path.components)
  else walk files current path.components

/-- The bytes of the file that a path leads to. -/
def read (files : FileSystem) (current : Location) (path : Path) : Except Failure Bytes :=
  if path.hasNul then .error (.wrongValue .nulInPath)
  else
    let refuse (fault : String → SystemFault) : Except Failure Bytes :=
      .error (.key (.file (fault path.text)))
    match files.find? current path with
    | .error .missing => refuse .noSuchFile
    | .error .notADirectory => refuse .notADirectory
    | .error .tooLong => refuse .nameTooLong
    | .error .above => refuse .isADirectory
    | .ok location =>
      match files.at? location with
      | some (.file contents) => .ok contents
      | some .directory => refuse .isADirectory
      | some (.module _) => .ok []
      | none => refuse .noSuchFile

/-- The names of the directories right below the top that begin with a given text. -/
def topDirectories (files : FileSystem) (start : String) : List String :=
  files.filterMap fun
    | ([name], .directory) => if start.toList.isPrefixOf name.toList then some name else none
    | _ => none

end FileSystem

end MockIssuer
