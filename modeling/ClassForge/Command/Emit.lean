import ClassForge.Files.Store
import ClassForge.Generate.Code
import ClassForge.Spec.Reader

/-!
# Emission

Generating the code of one spec and putting it where it belongs: into a file of
a store, or onto standard output. Nothing is put anywhere before the code has
been generated, and the output directory is made only if it is not there.

## Main definitions

* `Target`: Where the code goes.
* `EmitError`: Why a spec was not emitted.
* `outDirFor`: The output directory of a spec.
* `emit`: The emission of a spec.
-/

namespace ClassForge

namespace Command

open Files

/-- Where the code goes. -/
inductive Target where
  /-- Onto standard output. -/
  | stdout
  /-- Into a file, in a given directory or in the one that the spec names. -/
  | files (directory : Option Path)
  deriving DecidableEq

/-- Why a spec was not emitted. -/
inductive EmitError where
  /-- It could not be loaded. -/
  | load (path : Path) (error : Spec.SpecError)
  /-- Its code could not be generated. -/
  | generate (error : Generate.GenerationError)
  /-- Its file could not be written. -/
  | file (error : FileError)
  deriving DecidableEq

namespace EmitError

/-- What went wrong and the causes of that, from the outermost in. -/
def chain : EmitError → List String
  | .load path error => ("Failed to load " ++ path.text) :: error.chain
  | .generate error => error.chain
  | .file error => [error.message]

/-- The wording of what went wrong with its causes. -/
def message (error : EmitError) : String := ": ".intercalate error.chain

end EmitError

/-- The output directory of a spec: the given one, or the one that the spec
    names, seen from the directory of the spec itself. -/
def outDirFor (specFile : Path) (outDir : String) : Option Path → Path
  | some directory => directory
  | none => (specFile.parent?.getD ⟨"."⟩).join ⟨outDir⟩

/-- The spec of a file whose contents have been asked for. -/
def load (specFile : Path) (contents : Except FileError String) : Except EmitError Spec :=
  match contents with
  | .error error => .error (.load specFile (.unreadable error.message))
  | .ok text => (Spec.ofText text).mapError (.load specFile)

/-- What the emission of a spec comes to. -/
structure Emission (σ : Type) where
  /-- Where the code went, or why it did not. -/
  result : Except EmitError String
  /-- The store afterwards. -/
  state : σ
  /-- What was printed on the way. -/
  printed : String

variable {σ : Type}

/-- Make sure that there is an output directory. -/
def ensureDir (store : Store σ) (directory : Path) (state : σ) : Emission σ :=
  if store.isDir directory state then ⟨.ok "", state, ""⟩
  else
    let (made, state) := store.createDirs directory state
    ⟨(made.map fun _ => "").mapError .file, state,
      "  ⚠️ creating output directory " ++ directory.text ++ "\n"⟩

/-- Put generated code into a file of an output directory. -/
def deliver (store : Store σ) (directory : Path) (fileName code : String) (state : σ) :
    Emission σ :=
  let ready := ensureDir store directory state
  match ready.result with
  | .error error => ⟨.error error, ready.state, ready.printed⟩
  | .ok _ =>
    let file := directory.join ⟨fileName⟩
    let (written, state) := store.write file code ready.state
    ⟨(written.map fun _ => file.text).mapError .file, state, ready.printed⟩

/-- Generate the code of one spec and put it where it belongs. -/
def emit (store : Store σ) (language : Spec.Language) (config : Print.Config) (target : Target)
    (specFile : Path) (contents : Except FileError String) (state : σ) : Emission σ :=
  let made : Except EmitError (Spec × String × String) := do
    let spec ← load specFile contents
    let code ← (Generate.text language spec config).mapError .generate
    let fileName ← (Generate.fileName language spec).mapError .generate
    return (spec, code, fileName)
  match made with
  | .error error => ⟨.error error, state, ""⟩
  | .ok (spec, code, fileName) =>
    match target with
    | .stdout => ⟨.ok "stdout", state, code ++ "\n"⟩
    | .files directory =>
      deliver store (outDirFor specFile spec.outDir directory) fileName code state

end Command

end ClassForge
