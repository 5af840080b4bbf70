import ClassForge.Print.Printer

/-!
# Outlines

An outline is a printer with the outlines of its children. It is the form in
which a grammar says how its code is printed: every construct of a grammar has
an outline, made from those of its parts, and nothing about ids or frames.

## Main definitions

* `Outline`: A printer and the outlines of its children.
* `Outline.text`, `Outline.separated`, `Outline.sequence`, `Outline.file`: The
  outlines that every grammar uses.
-/

namespace ClassForge

namespace Print

/-- A printer and the outlines of its children. -/
inductive Outline where
  /-- A printer above some outlines. -/
  | node (printer : Printer) (children : List Outline)

namespace Outline

/-- The printer at the top. -/
def printer : Outline → Printer
  | .node printer _ => printer

/-- The outlines directly below. -/
def children : Outline → List Outline
  | .node _ children => children

/-- Fixed text of a grammar node. -/
def text (name content : String) : Outline := .node (.text name content) []

/-- Parts with a separator between them. -/
def separated (separator : String) (parts : List Outline) : Outline :=
  .node (.separated separator) parts

/-- Sibling statements. -/
def sequence (statements : List Outline) : Outline := .node .sequence statements

/-- Sibling statements inside a body of their own. -/
def body (statements : List Outline) : Outline := .node .passThrough [sequence statements]

/-- The statements of a whole file. -/
def file (statements : List Outline) : Outline :=
  .node (.highOrder fun scope _ => do return "\n".intercalate (← scope.texts))
    [sequence statements]

end Outline

end Print

end ClassForge
