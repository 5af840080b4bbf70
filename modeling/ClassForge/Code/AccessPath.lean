import ClassForge.Print.Error
import ClassForge.Code.NodeKind

/-!
# Types and Access Paths

The names of types, which are written but never checked, and chains of member
accesses such as `a.b.c`. A path has at least one accessor by construction; a
list of accessors that comes from outside is checked once, when it becomes a
path. The last accessor is the outermost one and decides the type of the path.

## Main definitions

* `TypeName`: The name of a type.
* `Accessor`: One step of a member access.
* `AccessPath`: A chain of accessors.
-/

namespace ClassForge

namespace Code

/-- The name of a type as it is written. -/
structure TypeName where
  /-- The text of the type. -/
  text : String
  deriving DecidableEq

namespace TypeName

/-- Texts. -/
def string : TypeName := ⟨"string"⟩

/-- Numbers. -/
def number : TypeName := ⟨"number"⟩

/-- Truth values. -/
def boolean : TypeName := ⟨"boolean"⟩

/-- The type of the null literal. -/
def null : TypeName := ⟨"null"⟩

/-- The type of a missing value. -/
def undefined : TypeName := ⟨"undefined"⟩

/-- Functions. -/
def callable : TypeName := ⟨"callable"⟩

/-- Anything. -/
def any : TypeName := ⟨"any"⟩

/-- The node of a type name. -/
def node : NodeTree := .leaf "Type"

end TypeName

/-- One step of a member access. -/
structure Accessor where
  /-- The text of the step. -/
  name : String
  /-- The type of the value after the step. -/
  type : TypeName
  deriving DecidableEq

/-- The node of an accessor. -/
def Accessor.node : NodeTree := .leaf "Accessor"

/-- The node of an identifier. -/
def identifierNode : NodeTree := .leaf "Identifier"

/-- A chain of accessors with at least one of them. -/
structure AccessPath where
  /-- The first accessor. -/
  root : Accessor
  /-- The accessors after it. -/
  rest : List Accessor
  deriving DecidableEq

namespace AccessPath

/-- The path through a list of accessors, of which there has to be one. -/
def series : List Accessor → Except Print.PrintError AccessPath
  | [] => .error .emptyAccessPath
  | root :: rest => .ok ⟨root, rest⟩

/-- All accessors in order. -/
def segments (path : AccessPath) : List Accessor := path.root :: path.rest

/-- The outermost accessor. -/
def outermost (path : AccessPath) : Accessor := path.rest.getLastD path.root

/-- The type of the whole path. -/
def type (path : AccessPath) : TypeName := path.outermost.type

/-- The names of the accessors in order, with a separator between them. -/
def text (separator : String) (path : AccessPath) : String :=
  separator.intercalate (path.segments.map Accessor.name)

/-- The node of a path, with one node for every accessor. -/
def node (path : AccessPath) : NodeTree :=
  .node "AccessPath" false (path.segments.map fun _ => Accessor.node)

end AccessPath

end Code

end ClassForge
