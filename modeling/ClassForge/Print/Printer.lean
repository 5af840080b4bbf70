import ClassForge.Print.Layout

/-!
# Printers

A printer is a kind and a layout. This module has the printers that belong to
no grammar: fixed text, forwarding, combining, and sequences of statements.

## Main definitions

* `Printer`: A kind and a layout.
* `Printer.text`, `Printer.passThrough`, `Printer.join`, `Printer.sequence`,
  `Printer.highOrder`: The printers of no grammar.
-/

namespace ClassForge

namespace Print

/-- A kind, and how a printer of that kind makes its text. -/
structure Printer where
  /-- What a middleware sees of the printer. -/
  kind : Kind
  /-- How the text is made at a place of the tree, against a frame. -/
  layout : Scope → View → Layout String

namespace Printer

/-- Fixed text of a grammar node; children, if any, are never asked for. -/
def text (name : String) (content : String) : Printer :=
  ⟨.node name, fun _ _ => .done content⟩

/-- The text of the single child. -/
def passThrough : Printer :=
  ⟨.passThrough, fun scope _ => do
    scope.expect 1
    Layout.child 0⟩

/-- The texts of all children, combined. -/
def join (combine : List String → String) : Printer :=
  ⟨.join, fun scope _ => do
    return combine (← scope.texts)⟩

/-- The texts of all children with a separator between them. -/
def separated (separator : String) : Printer := join separator.intercalate

/-- Sibling statements, one after the other on lines of their own. -/
def sequence : Printer :=
  ⟨.statementSequence, fun scope _ => do
    return "\n".intercalate (← scope.texts)⟩

/-- A printer given by any layout. A function that does more than layouts can say
    is not covered. -/
def highOrder (layout : Scope → View → Layout String) : Printer := ⟨.highOrder, layout⟩

end Printer

end Print

end ClassForge
