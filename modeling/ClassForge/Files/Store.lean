import ClassForge.Files.Error
import ClassForge.Files.Path

/-!
# Stores

What the emission of code needs from a place to put files, and a store that is
kept in memory.

The store in memory holds directories and files by their paths. It takes a file
only if the directory it goes to has been registered; a path without a parent
needs none. Equal paths are one file: writing to it again replaces the contents
and keeps the spelling under which it was first written.

## Main definitions

* `Store`: The operations on a place to put files.
* `Memory`: A store in memory.
* `Memory.store`: Its operations.
-/

namespace ClassForge

namespace Files

/-- The operations on a place to put files, whose state is of type `σ`. A
    failing operation may still have done part of its work. -/
structure Store (σ : Type) where
  /-- Whether there is a directory. -/
  isDir : Path → σ → Bool
  /-- Make a directory and those above it. -/
  createDirs : Path → σ → Except FileError Unit × σ
  /-- Write a file. -/
  write : Path → String → σ → Except FileError Unit × σ

/-- Directories and files in memory, the files in the order of their paths. -/
structure Memory where
  /-- The registered directories. -/
  directories : List Path
  /-- The files with their contents. -/
  files : List (Path × String)
  deriving DecidableEq

namespace Memory

/-- Nothing stored. -/
def empty : Memory := ⟨[], []⟩

/-- Whether a directory is registered. -/
def isDir (path : Path) (memory : Memory) : Bool := memory.directories.any path.same

/-- The contents of a file. -/
def read? (path : Path) (memory : Memory) : Option String :=
  (memory.files.find? fun file => path.same file.1).map Prod.snd

/-- Whether there is a directory or a file. -/
def contains (path : Path) (memory : Memory) : Bool :=
  memory.isDir path || (memory.read? path).isSome

/-- Register a directory. -/
def addDir (path : Path) (memory : Memory) : Memory :=
  if memory.isDir path then memory
  else { memory with directories := memory.directories ++ [path] }

/-- Register a directory and those above it. The empty path is no directory. -/
def addDirs (path : Path) (memory : Memory) : Memory :=
  (path.ancestors.filter fun ancestor => ancestor.text ≠ "").foldl
    (fun memory ancestor => memory.addDir ancestor) memory

/-- The files with one more, or with other contents if it is there. -/
def putFile (path : Path) (contents : String) : List (Path × String) → List (Path × String)
  | [] => [(path, contents)]
  | file :: files =>
    if path.same file.1 then (file.1, contents) :: files
    else if path.before file.1 then (path, contents) :: file :: files
    else file :: putFile path contents files

/-- The directory that a file needs, unless it needs none. -/
def neededDir? (path : Path) : Option Path :=
  path.parent?.filter fun parent => parent.text ≠ ""

/-- Write a file. -/
def write (path : Path) (contents : String) (memory : Memory) :
    Except FileError Unit × Memory :=
  match (neededDir? path).filter fun dir => !memory.isDir dir with
  | some dir => (.error (.missingDirectory dir.text), memory)
  | none => (.ok (), { memory with files := putFile path contents memory.files })

/-- The operations of a store in memory. -/
def store : Store Memory :=
  ⟨isDir, fun path memory => (.ok (), memory.addDirs path), write⟩

end Memory

end Files

end ClassForge
