import ClassForge.Print.Arena
import ClassForge.Print.Hooks

/-!
# Rendering

How a tree of printers becomes text. Every printer is rendered the same way:
its kind is put on the frame, the middlewares configure the frame, its layout
is carried out, and the middlewares rewrite the text. When the layout asks for
a child, a child frame is made and the child's tree is rendered against it.

## Main definitions

* `Layout.run`: Carry out a layout, given how each child renders.
* `Tree.render`: The text of a tree against a frame.

## Theorems

* `Tree.renderers_eq_map`: Every tree of a list renders as it does alone.
-/

namespace ClassForge

namespace Print

variable {σ μ : Type}

/-- Give up the whole rendering. -/
def Rendering.overflow {α : Type} (cause : Overflow) : Rendering σ α :=
  ExceptT.lift (StateT.lift (.error cause))

/-- Go on with the outcome of a rendering, whether it failed or not. -/
def Rendering.attempt {α : Type} (rendering : Rendering σ α) : Rendering σ (Except PrintError α) :=
  ExceptT.lift rendering.run

/-- How one child renders against a frame that was made for it. -/
abbrev Renderer (σ μ : Type) := Context μ → Rendering σ String

/-- Render the child at an index against a new child frame. A child that is not
    there is an error that names the least number of children needed. -/
def renderChild (hooks : Hooks σ μ) (kind : Kind) (children : List (Renderer σ μ))
    (context : Context μ) (index : Nat) (rule : Rule) (adjust : Settings → Settings) :
    Rendering σ String :=
  match children[index]? with
  | some render => do
    let frame ← context.child hooks rule adjust
    render frame
  | none =>
    if index + 1 < UInt64.size then
      throw (.childCount kind.name (index + 1) children.length)
    else Rendering.overflow .sum

/-- Carry out a layout of a printer of this kind, given how each child
    renders. -/
def Layout.run {α : Type} (hooks : Hooks σ μ) (kind : Kind) (children : List (Renderer σ μ))
    (context : Context μ) : Layout α → Rendering σ α
  | .done value => pure value
  | .fail error => throw error
  | .overflow cause => Rendering.overflow cause
  | .ask index rule adjust next => do
    let answer ← Rendering.attempt (renderChild hooks kind children context index rule adjust)
    (next answer).run hooks kind children context

/-- Render one printer against a frame, given how each child renders. -/
def Printer.render (hooks : Hooks σ μ) (printer : Printer) (scope : Scope)
    (children : List (Renderer σ μ)) (context : Context μ) : Rendering σ String := do
  let context ← (context.enter printer.kind).configure hooks
  let text ← (printer.layout scope context.view).run hooks printer.kind children context
  context.transform hooks text

mutual

/-- The text of a tree against a frame. -/
def Tree.render (hooks : Hooks σ μ) : Tree → Renderer σ μ
  | .node id parentKind printer children =>
    printer.render hooks (Tree.scope (.node id parentKind printer children))
      (Tree.renderers hooks children)

/-- How each tree of a list renders. -/
def Tree.renderers (hooks : Hooks σ μ) : List Tree → List (Renderer σ μ)
  | [] => []
  | tree :: trees => tree.render hooks :: Tree.renderers hooks trees

end

theorem Tree.renderers_eq_map (hooks : Hooks σ μ) (trees : List Tree) :
    Tree.renderers hooks trees = trees.map (Tree.render hooks) := by
  induction trees with
  | nil => rfl
  | cons tree trees ih => rw [Tree.renderers, ih, List.map_cons]

end Print

end ClassForge
