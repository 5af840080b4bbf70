import ClassForge.Command.Arguments

/-!
# The Program

The command line program. It takes a picture of the disk, lets the library say
what running with the given arguments comes to, prints that and puts what has
changed onto the disk. Nothing is decided here.

## Main definitions

* `main`: The program.
-/

namespace ClassForge

namespace Program

open Files

/-- The location that a path of names leads to. -/
def locationOf (path : Path) : Location :=
  path.rawSegments.filter fun segment => !isTrivial segment

/-- The path of a location. -/
def pathOf (location : Location) : String := "/" ++ "/".intercalate location

/-- The directories on the way to a location. -/
def directoriesTo (location : Location) : List (Location × Entry) :=
  (List.range location.length).map fun count => (location.take (count + 1), .directory)

/-- What there is at a location, and everything below it. Only specs and
    configurations are ever read, so the contents of other files stay out of the
    picture, and so does everything that cannot be read. -/
partial def scan (location : Location) : IO (List (Location × Entry)) := do
  try
    let path ← IO.FS.realPath (pathOf location)
    if ← path.isDir then
      let below ← (← path.readDir).toList.mapM fun entry => scan (location ++ [entry.fileName])
      return (location, .directory) :: below.flatten
    else if path.extension = some "json" then
      return [(location, .file (← IO.FS.readFile path))]
    else
      return [(location, .file "")]
  catch _ => return []

/-- Take a picture of what a path leads to and of the way to it, if there is
    something. -/
def picture (disk : Disk) (path : Path) : IO Disk := do
  try
    let location := locationOf ⟨(← IO.FS.realPath path.text).toString⟩
    let found ← scan location
    return (directoriesTo location.dropLast ++ found).foldl
      (fun disk (location, entry) => disk.put location entry) disk
  catch _ => return disk

/-- The directories, besides the working directory, that a request is about. -/
def otherDirectories (directory : Path) (arguments : List String) : List Path :=
  match Command.parseArguments arguments with
  | .error _ => []
  | .ok request =>
    (request.path :: request.outDir.toList).map fun path => directory.join ⟨path⟩

/-- Put something onto the disk. -/
def realize (location : Location) : Entry → IO Unit
  | .directory => IO.FS.createDirAll (pathOf location)
  | .file contents => IO.FS.writeFile (pathOf location) contents

end Program

end ClassForge

open ClassForge in
/-- The program: run with some arguments in the working directory. -/
def main (arguments : List String) : IO UInt32 := do
  let directory : Files.Path := ⟨(← IO.currentDir).toString⟩
  let mut disk : Files.Disk := ⟨[]⟩
  for path in directory :: Program.otherDirectories directory arguments do
    disk ← Program.picture disk path
  let answer :=
    Command.answer (Program.locationOf directory) directory arguments disk
  for (location, entry) in answer.disk.changesSince disk do
    Program.realize location entry
  IO.print answer.out
  IO.eprint answer.err
  return answer.exit.toUInt32
