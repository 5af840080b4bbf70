import ClassForge.Command.Emit
import ClassForge.Files.Disk
import ClassForge.Project.Config
import ClassForge.Text.Quoted

/-!
# The Generate Command

Generating the code of every spec below a directory. The specs are taken in the
order of their paths, whatever order the directory gives them in; one that
fails does not keep the others from being emitted, unless a size overflows,
which ends the run.

## Main definitions

* `Request`: What the command is asked to do.
* `CommandError`: Why the command fails.
* `specFiles`: The specs below a directory.
* `generate`: The command.
-/

namespace ClassForge

namespace Command

open Files

/-- What the command is asked to do. -/
structure Request where
  /-- The word for the language. -/
  language : String
  /-- The directory that holds the specs. -/
  path : String
  /-- The output directory, if it is not the one of the project or the spec. -/
  outDir : Option String
  /-- Whether code goes onto standard output. -/
  stdout : Bool
  /-- Columns per level, if it is not the number of the project. -/
  indentSize : Option Print.Size
  deriving DecidableEq

/-- Why the command fails. -/
inductive CommandError where
  /-- There is no such language. -/
  | unknownLanguage (word : String)
  /-- The configuration of the project cannot be read. -/
  | unreadableConfig (error : FileError)
  /-- The configuration of the project is no configuration. -/
  | invalidConfig
  /-- There is no directory with specs. -/
  | noSpecDirectory (path : Path)
  /-- Some of the specs were not emitted. -/
  | failed (failures total : Nat)
  /-- A size or a text does not fit, so the run was given up. -/
  | overflow (cause : Print.Overflow)
  deriving DecidableEq

/-- The wording of why the command fails. -/
def CommandError.message : CommandError → String
  | .unknownLanguage word => Generate.unknownLanguage word
  | .unreadableConfig error => error.message
  | .invalidConfig => "Invalid config JSON"
  | .noSpecDirectory path => "Spec directory does not exist: " ++ Text.quoted path.text
  | .failed failures total => failures.repr ++ " of " ++ total.repr ++ " specs failed"
  | .overflow cause => cause.message

/-- The name of the file that configures a project. -/
def configName : String := "specgen.config.json"

/-- The configuration of the project in a directory. -/
def loadConfig (cwd : Location) (directory : Path) (disk : Disk) :
    Except CommandError Project.Config :=
  let path := directory.join ⟨configName⟩
  if disk.contains cwd path then
    match disk.read cwd path with
    | .error error => .error (.unreadableConfig error)
    | .ok text =>
      match Project.Config.ofText? text with
      | none => .error .invalidConfig
      | some config => .ok config
  else .ok .standard

/-- A spec below a directory: the names that lead to it, and its path. -/
structure SpecFile where
  /-- The names that lead to it from the directory. -/
  names : Location
  /-- The path that leads to it. -/
  path : Path
  deriving DecidableEq

/-- How a spec is named in reports. -/
def SpecFile.relative (file : SpecFile) : String := "/".intercalate file.names

/-- The path of something below a directory. -/
def pathBelow (directory : Path) (names : Location) : Path :=
  names.foldl (fun path name => path.join ⟨name⟩) directory

/-- Whether a path leads to a spec by its name. -/
def isSpecPath (path : Path) : Bool :=
  path.extension? = some "json" && path.fileName? ≠ some configName

/-- The spec that an entry below a directory is, if it is one. -/
def specFile? (directory : Path) : Location × Entry → Option SpecFile
  | (_, .directory) => none
  | (names, .file _) =>
    let path := pathBelow directory names
    if isSpecPath path then some ⟨names, path⟩ else none

/-- The specs among the entries below a directory, in the order of their
    paths. -/
def specFiles (directory : Path) (entries : List (Location × Entry)) : List SpecFile :=
  (entries.filterMap (specFile? directory)).mergeSort fun a b => !b.path.before a.path

/-- How a run stands: the disk, what was printed, and how many specs were
    emitted and were not. -/
structure Session where
  /-- The disk. -/
  disk : Disk
  /-- The text on standard output. -/
  out : String
  /-- The text on standard error. -/
  err : String
  /-- How many specs were emitted. -/
  emitted : Nat
  /-- How many specs were not. -/
  failed : Nat
  /-- The overflow that ended the run, if one did. -/
  overflow : Option Print.Overflow := none
  deriving DecidableEq

namespace Session

/-- A run that has not done anything. -/
def start (disk : Disk) : Session :=
  { disk, out := "", err := "", emitted := 0, failed := 0 }

/-- Print a line. -/
def say (line : String) (session : Session) : Session :=
  { session with out := session.out ++ line ++ "\n" }

/-- Report on one spec. -/
def report (file : SpecFile) (result : Except EmitError String) (session : Session) : Session :=
  match result with
  | .ok output =>
    { session.say ("  ✓ " ++ file.relative ++ " → " ++ output) with
      emitted := session.emitted + 1 }
  | .error (.generate (.overflow cause)) => { session with overflow := some cause }
  | .error error =>
    { session with
      err := session.err ++ "  ✗ " ++ file.relative ++ " - " ++ error.message ++ "\n"
      failed := session.failed + 1 }

/-- Emit one spec and report on it, unless the run has ended. -/
def emitFile (cwd : Location) (language : Spec.Language) (config : Print.Config)
    (target : Target) (session : Session) (file : SpecFile) : Session :=
  if session.overflow.isSome then session
  else
    let emission :=
      emit (Disk.store cwd) language config target file.path (session.disk.read cwd file.path)
        session.disk
    { session with disk := emission.state, out := session.out ++ emission.printed }.report file
      emission.result

/-- Report on the whole run. -/
def conclude (session : Session) : Except CommandError Unit × Session :=
  match session.overflow with
  | some cause => (.error (.overflow cause), session)
  | none =>
    let session := session.say ""
    if session.failed = 0 then
      (.ok (), session.say ("✅ Generated " ++ session.emitted.repr ++ " files successfully"))
    else
      (.error (.failed session.failed (session.emitted + session.failed)),
        session.say ("⚠️ Generated " ++ session.emitted.repr ++ " files, "
          ++ session.failed.repr ++ " errors"))

end Session

/-- What a request comes down to once everything it names has been found. -/
structure Plan where
  /-- The language. -/
  language : Spec.Language
  /-- How code is printed. -/
  config : Print.Config
  /-- Where code goes. -/
  target : Target
  /-- The specs in order. -/
  files : List SpecFile

/-- Find everything that a request names. -/
def plan (cwd : Location) (directory : Path) (request : Request) (disk : Disk) :
    Except CommandError Plan := do
  let language ←
    match Generate.language? request.language with
    | none => .error (.unknownLanguage request.language)
    | some language => .ok language
  let config ← loadConfig cwd directory disk
  let specDirectory := directory.join ⟨request.path⟩
  let entries ←
    match disk.resolve cwd specDirectory with
    | .ok (location, .directory) => .ok (disk.entriesBelow location)
    | _ => .error (.noSpecDirectory specDirectory)
  let override := (request.outDir.or config.outDir).map fun dir => directory.join ⟨dir⟩
  return {
    language
    config := config.printing request.indentSize
    target := if request.stdout then .stdout else .files override
    files := specFiles specDirectory entries }

/-- Carry out a plan. -/
def carryOut (cwd : Location) (plan : Plan) (disk : Disk) :
    Except CommandError Unit × Session :=
  let session := Session.start disk
  if plan.files = [] then (.ok (), session.say "⚠️  No spec files found")
  else
    let session := session.say ("🔨 Generating " ++ plan.language.name ++ " code...")
    let session := session.say ("Found " ++ plan.files.length.repr ++ " specs")
    (plan.files.foldl (Session.emitFile cwd plan.language plan.config plan.target)
      session).conclude

/-- The command, run in a working directory at a location of the disk. -/
def generate (cwd : Location) (directory : Path) (request : Request) (disk : Disk) :
    Except CommandError Unit × Session :=
  match plan cwd directory request disk with
  | .error error => (.error error, Session.start disk)
  | .ok plan => carryOut cwd plan disk

end Command

end ClassForge
