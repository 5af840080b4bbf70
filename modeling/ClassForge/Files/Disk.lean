import ClassForge.Files.Store

/-!
# Disks

A tree of directories and files, held as a list of entries by location. A
location is the list of names from the root down, so it says where something
is, while a path says how to get there: names are looked up one by one, a pair
of dots goes back to the directory above, and every step needs a directory to
start from.

There are no links: an entry is a directory or a file, and a name leads to what is
at its own location and nowhere else. What is said of disks holds of file systems
as far as there are no links on the way.

## Main definitions

* `Location`, `Entry`, `Disk`: Where something is, what it is, and all of it.
* `Disk.resolve`: The location that a path leads to.
* `Disk.makeDir`, `Disk.createDirs`, `Disk.write`, `Disk.read`: The operations.
* `Disk.entriesBelow`, `Disk.changesSince`: Everything below a directory, and
  everything that an older disk does not have.
* `Disk.store`: The operations as a store.
-/

namespace ClassForge

namespace Files

/-- Where something is: the names from the root down. -/
abbrev Location := List String

/-- What there can be at a location. -/
inductive Entry where
  /-- A directory. -/
  | directory
  /-- A file with its contents. -/
  | file (contents : String)
  deriving DecidableEq

/-- Everything on a disk by its location, the root left out. -/
structure Disk where
  /-- The entries. -/
  entries : List (Location × Entry)
  deriving DecidableEq

/-- How many bytes a name may have. -/
def maxNameLength : Nat := 255

/-- How many bytes a path may have. -/
def maxPathLength : Nat := 4095

namespace Disk

/-- What is at a location. The root is always a directory. -/
def entry? (disk : Disk) (location : Location) : Option Entry :=
  if location = [] then some .directory
  else (disk.entries.find? fun entry => entry.1 = location).map Prod.snd

/-- Put something at a location, in place of what is there. -/
def put (location : Location) (entry : Entry) (disk : Disk) : Disk :=
  if disk.entries.any fun old => old.1 = location then
    ⟨disk.entries.map fun old => if old.1 = location then (location, entry) else old⟩
  else ⟨disk.entries ++ [(location, entry)]⟩

/-- The location of a name in a directory, unless the name is too long. -/
def place (directory : Location) (name : String) : Except FileError Location :=
  if maxNameLength < name.utf8ByteSize then .error .nameTooLong else .ok (directory ++ [name])

/-- The location after one segment of a path. The entry it leads to may be
    missing, which the next step notices. -/
def step (disk : Disk) (location : Location) (segment : String) : Except FileError Location :=
  match disk.entry? location with
  | none => .error .notFound
  | some (.file _) => .error .notADirectory
  | some .directory =>
    if isTrivial segment then .ok location
    else if segment = ".." then .ok location.dropLast
    else place location segment

/-- The location that segments lead to from another. -/
def walk (disk : Disk) (location : Location) (segments : List String) :
    Except FileError Location :=
  segments.foldlM disk.step location

/-- Where a path starts; a path that is not absolute starts at the working
    directory. -/
def startOf (cwd : Location) (path : Path) : Location := if path.isAbsolute then [] else cwd

/-- Reject what can be no path: the empty text, a text that is too long, and a
    text that holds the character that ends names. -/
def checkPath (path : Path) : Except FileError Unit :=
  if path.text.toList.contains (Char.ofNat 0) then .error .nulInName
  else if path.text = "" then .error .notFound
  else if maxPathLength < path.text.utf8ByteSize then .error .nameTooLong
  else .ok ()

/-- The location that a path leads to, if there is something. -/
def resolve (disk : Disk) (cwd : Location) (path : Path) :
    Except FileError (Location × Entry) := do
  checkPath path
  let location ← disk.walk (startOf cwd path) path.rawSegments
  match disk.entry? location with
  | none => .error .notFound
  | some entry => return (location, entry)

/-- Whether a path leads to something. -/
def contains (cwd : Location) (path : Path) (disk : Disk) : Bool :=
  match disk.resolve cwd path with
  | .ok _ => true
  | .error _ => false

/-- Whether a path leads to a directory. -/
def isDir (cwd : Location) (path : Path) (disk : Disk) : Bool :=
  match disk.resolve cwd path with
  | .ok (_, .directory) => true
  | _ => false

/-- The segments of a path without the empty ones at its end. -/
def openSegments (path : Path) : List String :=
  (path.rawSegments.reverse.dropWhile (· = "")).reverse

/-- The directory in which the last name of some segments is to be found, and
    that name; it is none if the segments do not end with a name. -/
def lastName (disk : Disk) (start : Location) (segments : List String) :
    Except FileError (Location × Option String) := do
  let directory ← disk.walk start segments.dropLast
  -- An empty last segment checks that the walk ended in a directory.
  let _ ← disk.step directory ""
  match segments.getLast? with
  | none => return (directory, none)
  | some segment =>
    return (directory, if isTrivial segment || segment = ".." then none else some segment)

/-- Make one directory. -/
def makeDir (cwd : Location) (path : Path) (disk : Disk) : Except FileError Disk := do
  checkPath path
  match ← disk.lastName (startOf cwd path) (openSegments path) with
  | (_, none) => .error .alreadyExists
  | (directory, some name) =>
    let location ← place directory name
    match disk.entry? location with
    | some _ => .error .alreadyExists
    | none => return disk.put location .directory

/-- Make the directories of a list in order. One that is already there is
    fine. -/
def makeDirs (cwd : Location) : List Path → Disk → Except FileError Unit × Disk
  | [], disk => (.ok (), disk)
  | path :: paths, disk =>
    match disk.makeDir cwd path with
    | .ok disk => makeDirs cwd paths disk
    | .error error =>
      if disk.isDir cwd path then makeDirs cwd paths disk else (.error error, disk)

/-- The paths, from a path up, that have to be made first because nothing is
    there, in the order in which they are to be made. -/
def pathsToMake (cwd : Location) (disk : Disk) : List Path → List Path
  | [] => []
  | path :: above =>
    match disk.makeDir cwd path with
    | .error .notFound => pathsToMake cwd disk above ++ [path]
    | _ => [path]

/-- Make a directory and those above it. The empty path needs nothing. -/
def createDirs (cwd : Location) (path : Path) (disk : Disk) : Except FileError Unit × Disk :=
  disk.makeDirs cwd
    (disk.pathsToMake cwd (path.ancestors.filter fun ancestor => ancestor.text ≠ ""))

/-- Write a file, in place of one that is there. -/
def write (cwd : Location) (path : Path) (contents : String) (disk : Disk) :
    Except FileError Unit × Disk :=
  let target : Except FileError Location := do
    checkPath path
    match ← disk.lastName (startOf cwd path) (openSegments path) with
    | (_, none) => .error .isADirectory
    | (directory, some name) =>
      if path.rawSegments.getLast? = some "" then .error .isADirectory
      else
        let location ← place directory name
        if disk.entry? location = some .directory then .error .isADirectory
        else return location
  match target with
  | .error error => (.error error, disk)
  | .ok location => (.ok (), disk.put location (.file contents))

/-- The contents of a file. -/
def read (cwd : Location) (path : Path) (disk : Disk) : Except FileError String := do
  match ← disk.resolve cwd path with
  | (_, .directory) => .error .isADirectory
  | (_, .file contents) => return contents

/-- Everything below a location, by the names that lead to it from there. -/
def entriesBelow (location : Location) (disk : Disk) : List (Location × Entry) :=
  disk.entries.filterMap fun (found, entry) =>
    if location <+: found ∧ found ≠ location then some (found.drop location.length, entry)
    else none

/-- What is on a disk but not, or not like this, on an older one. -/
def changesSince (disk older : Disk) : List (Location × Entry) :=
  disk.entries.filter fun (location, entry) => older.entry? location ≠ some entry

/-- The operations of a disk as a store. -/
def store (cwd : Location) : Store Disk := ⟨isDir cwd, createDirs cwd, write cwd⟩

/-- Write a file and make the directories above it first. -/
def install (cwd : Location) (path : Path) (contents : String) (disk : Disk) : Disk :=
  let above := disk.createDirs cwd (path.parent?.getD ⟨"."⟩)
  (above.2.write cwd path contents).2

end Disk

end Files

end ClassForge
