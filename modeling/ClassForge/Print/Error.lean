/-!
# Printing Errors

What can go wrong while a tree of printers is set up and rendered, apart from
an overflow. The causes are constructors; their wording is one function.

## Main definitions

* `PrintError`: The causes.
* `PrintError.message`: Their wording.
-/

namespace ClassForge

namespace Print

/-- A part of a root frame that has to be given. -/
inductive RootPart where
  /-- The printing configuration. -/
  | config
  /-- The list of middlewares. -/
  | middlewares
  deriving DecidableEq

/-- The name of a part of a root frame. -/
def RootPart.name : RootPart → String
  | .config => "config"
  | .middlewares => "middlewares"

/-- What can go wrong while a tree of printers is set up and rendered. -/
inductive PrintError where
  /-- A printer of this kind has another number of children than it needs. -/
  | childCount (printer : String) (expected found : Nat)
  /-- A root frame was set up without one of its parts. -/
  | missingRoot (part : RootPart)
  /-- A path of accessors was set up without any accessor. -/
  | emptyAccessPath
  deriving DecidableEq

namespace PrintError

/-- The wording of a printing error. -/
def message : PrintError → String
  | .childCount printer expected found =>
    "Printer '" ++ printer ++ "' expects " ++ expected.repr ++ " child(ren), found "
      ++ found.repr
  | .missingRoot part => "Root print context is missing '" ++ part.name ++ "'"
  | .emptyAccessPath => "An access path needs at least one accessor"

/-- Whether the cause is the shape of the printer tree. -/
def isStructural : PrintError → Bool
  | .childCount .. => true
  | _ => false

end PrintError

end Print

end ClassForge
