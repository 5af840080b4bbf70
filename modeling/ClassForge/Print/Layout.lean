import ClassForge.Print.Context

/-!
# Layouts

What a printer does to make its text: it may ask for the texts of its
children, in any order and as often as it likes, and it ends with a text or
gives up. A layout is such a plan as data. It says which child is asked for and
how the answer is used, and nothing about how a child is rendered, so that a
printer can be written without knowing about middlewares.

A child that fails does not end a layout by itself: the layout is told and may
go on.

There are limits to what a layout can say. A child is rendered against a child
frame of the frame that the layout was started from, never against one of an
enclosing frame or of a frame made for the purpose. And nothing is changed on the
child's frame but its settings; in particular no middleware is installed there. The
printers of the library and of the grammars keep to this. A function that is given
to a high-order printer has the whole frame at hand and need not. What is said of
every tree is said of trees of layouts.

## Main definitions

* `Layout`: A plan that asks for children.
* `Scope`: Where a printer stands in its tree.
* `Layout.child`, `Scope.texts`, `Scope.expect`: The usual steps.
-/

namespace ClassForge

namespace Print

/-- A plan that asks for the texts of children and ends with a value. -/
inductive Layout (α : Type) where
  /-- The plan is done. -/
  | done (value : α)
  /-- The plan gives up. -/
  | fail (error : PrintError)
  /-- A size or a text that the plan needs does not fit. -/
  | overflow (cause : Overflow)
  /-- Ask for the child at an index, rendered against a child frame of the frame in
      use, made with this rule and this adjustment of its settings, and go on with
      its text or its error. -/
  | ask (index : Nat) (rule : Rule) (adjust : Settings → Settings)
      (next : Except PrintError String → Layout α)

namespace Layout

variable {α β : Type}

/-- One plan after the other. -/
def bind : Layout α → (α → Layout β) → Layout β
  | .done value, f => f value
  | .fail error, _ => .fail error
  | .overflow cause, _ => .overflow cause
  | .ask index rule adjust next, f => .ask index rule adjust fun answer => (next answer).bind f

instance : Monad Layout where
  pure := .done
  bind := .bind

/-- The plan that ends as a result says. -/
def ofExcept : Except PrintError α → Layout α
  | .ok value => .done value
  | .error error => .fail error

/-- The plan that needs a checked result. -/
def ofSize : Except Overflow α → Layout α
  | .ok value => .done value
  | .error cause => .overflow cause

/-- Ask for a child and go on whether it fails or not. -/
def attempt (index : Nat) : Layout (Except PrintError String) :=
  .ask index .keep id .done

/-- Ask for a child and give up if it fails. -/
def child (index : Nat) (rule : Rule := .keep) (adjust : Settings → Settings := id) :
    Layout String :=
  .ask index rule adjust ofExcept

/-- Ask for `count` children in order, from an index on, and give up at the
    first that fails. -/
def childrenFrom (adjust : Settings → Settings) : (start count : Nat) → Layout (List String)
  | _, 0 => .done []
  | start, count + 1 => do
    let text ← child start .keep adjust
    let texts ← childrenFrom adjust (start + 1) count
    return text :: texts

end Layout

/-- Where a printer stands in its tree. -/
structure Scope where
  /-- The printer's id. -/
  id : Nat
  /-- The printer's kind. -/
  kind : Kind
  /-- The kind of the printer above it, if any. -/
  parentKind : Option Kind
  /-- The ids of its children, in order. -/
  children : List Nat

namespace Scope

/-- Give up unless there are exactly this many children. -/
def expect (scope : Scope) (count : Nat) : Layout Unit :=
  if scope.children.length = count then .done ()
  else .fail (.childCount scope.kind.name count scope.children.length)

/-- The texts of all children. -/
def texts (scope : Scope) (adjust : Settings → Settings := fun same => same) :
    Layout (List String) :=
  Layout.childrenFrom adjust 0 scope.children.length

end Scope

end Print

end ClassForge
