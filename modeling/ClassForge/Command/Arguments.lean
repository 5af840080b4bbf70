import ClassForge.Command.Generate
import ClassForge.Text.Decimal

/-!
# Command Line Arguments

Reading the arguments of the command line, one after the other. Options may
come in any place: a long one with its value behind an equals sign or in the
next argument, a short one also with the value right behind it. No option may
be given twice for the same topic, and an argument that looks like an option is
never taken for the value of one. Two dashes end the options.

## Main definitions

* `Reading`, `Reading.step`: What has been read so far, and reading one more
  argument.
* `parseArguments`: The request that some arguments make.
* `Answer`, `answer`: What running the program comes to.
-/

namespace ClassForge

namespace Command

/-- Why reading the arguments stops before their end. -/
inductive Stop where
  /-- They are not understood. -/
  | usage
  /-- They ask for the version. -/
  | version
  /-- They ask for help. -/
  | help
  deriving DecidableEq

/-- The options that take a value. -/
inductive ValueOption where
  | outDir
  | indentSize
  deriving DecidableEq

/-- What the arguments are about. -/
inductive Topic where
  /-- The program itself, until a command is named. -/
  | program
  /-- The command. -/
  | generate
  /-- Help for the program. -/
  | programHelp
  /-- Help for a command, which has no commands of its own. -/
  | commandHelp
  deriving DecidableEq

/-- What has been read of the arguments. -/
structure Reading where
  /-- What they are about. -/
  topic : Topic := .program
  /-- Whether logging was asked for since the command was named or, before that,
      since the start. -/
  verbose : Bool := false
  /-- The arguments that are no options, in order. -/
  positionals : List String := []
  /-- The output directory. -/
  outDir : Option String := none
  /-- Whether code goes onto standard output. -/
  stdout : Bool := false
  /-- Columns per level. -/
  indentSize : Option Print.Size := none
  /-- The option whose value is the next argument. -/
  pending : Option ValueOption := none
  /-- Whether the options have ended. -/
  escaped : Bool := false
  deriving DecidableEq

/-- The number that a text spells; a plus may stand in front. -/
def sizeArgument? (text : String) : Option Print.Size :=
  match text.toList with
  | '+' :: digits => Text.word? digits
  | digits => Text.word? digits

namespace Reading

/-- Note that logging was asked for. -/
def setVerbose (reading : Reading) : Except Stop Reading :=
  if reading.verbose then .error .usage else .ok { reading with verbose := true }

/-- Note that code goes onto standard output. -/
def setStdout (reading : Reading) : Except Stop Reading :=
  if reading.stdout then .error .usage else .ok { reading with stdout := true }

/-- Note the value of an option. -/
def setValue (option : ValueOption) (value : String) (reading : Reading) :
    Except Stop Reading :=
  match option with
  | .outDir =>
    if reading.outDir.isSome then .error .usage else .ok { reading with outDir := some value }
  | .indentSize =>
    match sizeArgument? value with
    | none => .error .usage
    | some size =>
      if reading.indentSize.isSome then .error .usage
      else .ok { reading with indentSize := some size }

/-- Note an option that takes a value, which is here or in the next argument. -/
def setOption (option : ValueOption) (value : Option String) (reading : Reading) :
    Except Stop Reading :=
  match value with
  | some value => reading.setValue option value
  | none => .ok { reading with pending := some option }

/-- Read a long option with the value behind its equals sign, if there is
    one. -/
def long (name : String) (value : Option String) (reading : Reading) : Except Stop Reading :=
  match name, value with
  | "verbose", none => reading.setVerbose
  | "help", none => .error .help
  | "version", none => if reading.topic = .program then .error .version else .error .usage
  | "stdout", none => if reading.topic = .program then .error .usage else reading.setStdout
  | "out-dir", value =>
    if reading.topic = .program then .error .usage else reading.setOption .outDir value
  | "indent-size", value =>
    if reading.topic = .program then .error .usage else reading.setOption .indentSize value
  | _, _ => .error .usage

/-- The value right behind a short option; an equals sign in front of it is
    dropped. -/
def attached? : List Char → Option String
  | [] => none
  | '=' :: value => some (String.ofList value)
  | value => some (String.ofList value)

/-- Read short options. One that takes a value takes the rest of them. -/
def short : List Char → Reading → Except Stop Reading
  | [], reading => .ok reading
  | c :: rest, reading =>
    if c = 'v' then do
      let reading ← reading.setVerbose
      short rest reading
    else if c = 'h' then .error .help
    else if c = 'V' ∧ reading.topic = .program then .error .version
    else if c = 'o' ∧ reading.topic ≠ .program then reading.setOption .outDir (attached? rest)
    else .error .usage

/-- Read an argument that is no option. The first one names the command, and
    it has to come before the options end. -/
def positional (argument : String) (reading : Reading) : Except Stop Reading :=
  if reading.topic = .generate then
    if reading.positionals.length < 2 then
      .ok { reading with positionals := reading.positionals ++ [argument] }
    else .error .usage
  else if reading.escaped then .error .usage
  else if argument = "generate" then .ok { reading with topic := .generate, verbose := false }
  else if argument = "help" then .ok { reading with topic := .programHelp }
  else .error .usage

/-- Read an argument behind the request for help, which names the command that
    help is wanted for. Nothing is an option there. -/
def helpTopic (argument : String) (reading : Reading) : Except Stop Reading :=
  if reading.topic = .programHelp ∧ (argument = "generate" ∨ argument = "help") then
    .ok { reading with topic := .commandHelp }
  else .error .usage

/-- A long option without its dashes: its name and what is behind the first
    equals sign. -/
def splitLong (option : List Char) : String × Option String :=
  let name := String.ofList (option.takeWhile (· ≠ '='))
  match option.dropWhile (· ≠ '=') with
  | [] => (name, none)
  | _ :: value => (name, some (String.ofList value))

/-- Read one argument. -/
def step (reading : Reading) (argument : String) : Except Stop Reading :=
  if reading.topic = .programHelp ∨ reading.topic = .commandHelp then
    reading.helpTopic argument
  else if reading.escaped then reading.positional argument
  else
    match argument.toList, reading.pending with
    | ['-'], some option | [], some option =>
      { reading with pending := none }.setValue option argument
    | '-' :: _, some _ => .error .usage
    | _, some option => { reading with pending := none }.setValue option argument
    | ['-', '-'], none => .ok { reading with escaped := true }
    | '-' :: '-' :: option, none =>
      let (name, value) := splitLong option
      reading.long name value
    | ['-'], none => reading.positional argument
    | '-' :: options, none => reading.short options
    | _, none => reading.positional argument

/-- The request at the end of the arguments. The language has to be named; the
    directory is the working directory unless it is named. -/
def finish (reading : Reading) : Except Stop Request :=
  if reading.topic = .programHelp ∨ reading.topic = .commandHelp then .error .help
  else if reading.pending.isSome then .error .usage
  else
    match reading.positionals with
    | [] => .error .usage
    | language :: rest =>
      .ok ⟨language, rest.head?.getD ".", reading.outDir, reading.stdout, reading.indentSize⟩

end Reading

/-- The request that some arguments make, or why reading them stops. -/
def parseArguments (arguments : List String) : Except Stop Request := do
  let reading ← arguments.foldlM Reading.step {}
  reading.finish

/-- What running the program comes to. -/
structure Answer where
  /-- The exit code. -/
  exit : Nat
  /-- The text on standard output. -/
  out : String
  /-- The text on standard error. -/
  err : String
  /-- The disk afterwards. -/
  disk : Files.Disk
  deriving DecidableEq

/-- The exit code of a run that was given up. -/
def givenUpExit : Nat := 101

/-- How the program is used. -/
def usage : String :=
  "Usage: specgen generate LANG [PATH] [--out-dir DIR] [--stdout] [--indent-size N]\n"

/-- Run the program with some arguments in a working directory at a location of
    the disk. -/
def answer (cwd : Files.Location) (directory : Files.Path) (arguments : List String)
    (disk : Files.Disk) : Answer :=
  match parseArguments arguments with
  | .error .usage => ⟨2, "", usage, disk⟩
  | .error .help => ⟨0, usage, "", disk⟩
  | .error .version => ⟨0, "specgen 0.1.0\n", "", disk⟩
  | .ok request =>
    match generate cwd directory request disk with
    | (.ok (), session) => ⟨0, session.out, session.err, session.disk⟩
    | (.error (.overflow cause), session) =>
      ⟨givenUpExit, session.out, session.err ++ cause.message ++ "\n", session.disk⟩
    | (.error error, session) =>
      ⟨1, session.out, session.err ++ "\nError: " ++ error.message ++ "\n\n", session.disk⟩

end Command

end ClassForge
