import ClassForge.Print.Describe
import ClassForge.Print.Printer

/-!
# Templates

A template is a list of parts, each of which contributes some text: fixed text,
one child or all of them, or a fact about the printer's own place and frame. It
is the convenient way to write a printer that belongs to no grammar.

## Main definitions

* `Fact`: What a template can say about the place of its printer.
* `Part`: One part of a template.
* `Printer.template`: The printer of a template.
-/

namespace ClassForge

namespace Print

/-- What a template can say about the place and the frame of its printer. -/
inductive Fact where
  /-- The number of children. -/
  | count
  /-- The ids of the children. -/
  | children
  /-- The printer's own id. -/
  | id
  /-- The printer's own kind. -/
  | kind
  /-- The kind of the printer above. -/
  | parentKind
  /-- The kinds from the printer up to the root. -/
  | stack
  /-- The number of frames above. -/
  | depth
  /-- The level count. -/
  | indent
  /-- The number of ancestors of the state. -/
  | level
  /-- The leading text of the level. -/
  | lead
  /-- The description of the context. -/
  | context

namespace Fact

/-- The text of a fact. Only the leading text can overflow. -/
def text (scope : Scope) (view : View) : Fact → Layout String
  | .count => return scope.children.length.repr
  | .children => return "[" ++ ", ".intercalate (scope.children.map Nat.repr) ++ "]"
  | .id => return scope.id.repr
  | .kind => return scope.kind.name
  | .parentKind => return (scope.parentKind.map Kind.name).getD "-"
  | .stack => return "<".intercalate (view.stack.map Kind.name)
  | .depth => return view.depth.repr
  | .indent => return view.state.size.toNat.repr
  | .level => return view.state.level.repr
  | .lead => Layout.ofSize view.lead
  | .context => return view.describe

end Fact

/-- The adjustment that sets a level count, if one is given. -/
def adjustTo : Option Size → Settings → Settings
  | none, settings => settings
  | some size, settings => settings.withSize size

/-- One part of a template. -/
inductive Part where
  /-- Fixed text. -/
  | literal (text : String)
  /-- The child at an index, under a rule and, if given, at a fixed level. -/
  | child (index : Nat) (rule : Rule) (size : Option Size)
  /-- All children with a separator, each at a fixed level if one is given. -/
  | children (separator : String) (size : Option Size)
  /-- The child at an index or, if it fails, its error between angle brackets. -/
  | attempt (index : Nat)
  /-- No text, but exactly this many children are needed. -/
  | expect (count : Nat)
  /-- A fact. -/
  | info (fact : Fact)

namespace Part

/-- The text of a part. -/
def text (scope : Scope) (view : View) : Part → Layout String
  | .literal text => return text
  | .child index rule size => Layout.child index rule (adjustTo size)
  | .children separator size => do
    return separator.intercalate (← scope.texts (adjustTo size))
  | .attempt index => do
    match ← Layout.attempt index with
    | .ok text => return text
    | .error error => return "<" ++ error.message ++ ">"
  | .expect count => do
    scope.expect count
    return ""
  | .info fact => fact.text scope view

/-- The texts of the parts of a template, one after the other. -/
def texts (scope : Scope) (view : View) : List Part → Layout String
  | [] => return ""
  | part :: parts => do
    let text ← part.text scope view
    let rest ← texts scope view parts
    return text ++ rest

end Part

/-- The printer of a template. -/
def Printer.template (parts : List Part) : Printer :=
  .highOrder fun scope view => Part.texts scope view parts

end Print

end ClassForge
