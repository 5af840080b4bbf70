import ClassForge.Print.Error
import ClassForge.Print.Overflow
import ClassForge.Spec.Basic

/-!
# Generation Errors

Everything that can keep code from being generated, from the spec to the
printed text, with the wording that says where it came from.

## Main definitions

* `GenerationError`: The causes.
* `GenerationError.message`: Their wording.
-/

namespace ClassForge

namespace Generate

/-- What can keep code from being generated. -/
inductive GenerationError where
  /-- The code could not be printed. -/
  | print (error : Print.PrintError)
  /-- The spec is not fit for it. -/
  | spec (error : Spec.SpecError)
  /-- A file could not be read or written, for this reason. -/
  | io (reason : String)
  /-- Any other reason. -/
  | other (reason : String)
  /-- A size or a text does not fit. -/
  | overflow (cause : Print.Overflow)
  deriving DecidableEq

namespace GenerationError

/-- The wording of what kept code from being generated. -/
def message : GenerationError → String
  | .print error => "Print error: " ++ error.message
  | .spec error => "Spec error: " ++ error.message
  | .io reason => "IO error: " ++ reason
  | .other reason => reason
  | .overflow cause => cause.message

/-- Whether the spec is to blame. -/
def isSpecError : GenerationError → Bool
  | .spec _ => true
  | _ => false

/-- The wording, followed by that of the cause which it already repeats. -/
def chain (error : GenerationError) : List String :=
  error.message ::
    match error with
    | .print cause => [cause.message]
    | .spec cause => cause.chain
    | .io reason => [reason]
    | _ => []

end GenerationError

end Generate

end ClassForge
