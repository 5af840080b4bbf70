import ClassForge.Print.Output

/-!
# Borrowed Frames

A layout renders a child against a child frame of the frame that it was started
from, and changes nothing on the child's frame but its settings. The printers of
the library and of the grammars do no more than that. A high-order printer may be
given a function that does: it is handed a frame, and nothing keeps it from
rendering a child against a child frame of another one, an enclosing frame or one
that it has made itself, or from installing middlewares on the child's frame.

Here is rendering with such functions in some of the slots. If no slot has one, it
is rendering as everywhere else. What is proved of all layouts does not hold of
all functions: once a frame is borrowed, frames no longer follow the tree, and a
middleware may miss printers below the one for whose frame it was installed. The
modules on these two matters say so beside their theorems.

## Main definitions

* `OpenLayout`, `PrintFunction`: A layout that has the whole frame at hand.
* `Layout.opened`, `Printer.function`: A layout and a printer as such.
* `Tree.renderWith`: Rendering with functions in some slots.
* `PrintFunction.borrower`: The function that renders its only child against the
  enclosing frame.

## Theorems

* `Layout.run_opened`: Layouts do the same when they are opened.
* `Tree.renderWith_none`: Without functions, rendering is what it was.
-/

namespace ClassForge

namespace Print

variable {σ μ α : Type}

/-- A layout that has the whole frame at hand. -/
inductive OpenLayout (μ α : Type) where
  /-- The layout is done. -/
  | done (value : α)
  /-- The layout gives up. -/
  | fail (error : PrintError)
  /-- A size or a text that the layout needs does not fit. -/
  | overflow (cause : Overflow)
  /-- Ask for the child at an index, rendered against a child frame of a frame made
      of the one in use, and go on with its text or its error. -/
  | ask (against : Context μ → Context μ) (index : Nat) (rule : Rule)
      (configure : Context μ → Context μ) (next : Except PrintError String → OpenLayout μ α)

/-- How a high-order printer makes its text of a frame. -/
abbrev PrintFunction (μ : Type) := Scope → Context μ → OpenLayout μ String

/-- Carry out an open layout. -/
def OpenLayout.run (hooks : Hooks σ μ) (kind : Kind) (children : List (Renderer σ μ))
    (context : Context μ) : OpenLayout μ α → Rendering σ α
  | .done value => pure value
  | .fail error => throw error
  | .overflow cause => Rendering.overflow cause
  | .ask against index rule configure next => do
    let answer ← Rendering.attempt (renderChild hooks kind
      (children.map fun render frame => render (configure frame)) (against context) index rule id)
    (next answer).run hooks kind children context

/-- Render a printer of this kind with a function against a frame. -/
def PrintFunction.render (hooks : Hooks σ μ) (kind : Kind) (function : PrintFunction μ)
    (scope : Scope) (children : List (Renderer σ μ)) (context : Context μ) :
    Rendering σ String := do
  let context ← (context.enter kind).configure hooks
  let text ← (function scope context).run hooks kind children context
  context.transform hooks text

/-- The layout that stays with the frame in use and only changes settings. -/
def Layout.opened : Layout α → OpenLayout μ α
  | .done value => .done value
  | .fail error => .fail error
  | .overflow cause => .overflow cause
  | .ask index rule adjust next =>
    .ask id index rule (Context.adjust adjust) fun answer => (next answer).opened

/-- The function of a printer that has a layout. -/
def Printer.function (printer : Printer) : PrintFunction μ := fun scope context =>
  (printer.layout scope context.view).opened

mutual

/-- The text of a tree against a frame, with functions in some of its slots instead
    of what the printers there would do. -/
def Tree.renderWith (hooks : Hooks σ μ) (functions : Nat → Option (PrintFunction μ)) :
    Tree → Renderer σ μ
  | .node id parentKind printer children =>
    ((functions id).getD printer.function).render hooks printer.kind
      (Tree.scope (.node id parentKind printer children))
      (Tree.renderersWith hooks functions children)

/-- How each tree of a list renders. -/
def Tree.renderersWith (hooks : Hooks σ μ) (functions : Nat → Option (PrintFunction μ)) :
    List Tree → List (Renderer σ μ)
  | [] => []
  | tree :: trees => tree.renderWith hooks functions :: Tree.renderersWith hooks functions trees

end

section Opened

variable {hooks : Hooks σ μ} {kind : Kind} {children : List (Renderer σ μ)} {context : Context μ}

/-- The last word on the settings of a child frame can be had afterwards. -/
theorem Context.child_eq_map (hooks : Hooks σ μ) (context : Context μ) (rule : Rule)
    (adjust : Settings → Settings) :
    context.child hooks rule adjust = Context.adjust adjust <$> context.child hooks rule id := by
  simp only [Context.child, map_eq_pure_bind, bind_assoc, pure_bind]
  rfl

theorem renderChild_map_adjust (index : Nat) (rule : Rule) (adjust : Settings → Settings) :
    renderChild hooks kind (children.map fun render frame => render (frame.adjust adjust)) context
        index rule id
      = renderChild hooks kind children context index rule adjust := by
  rw [renderChild, renderChild, List.getElem?_map, List.length_map]
  cases children[index]? with
  | none => rfl
  | some render =>
      rw [context.child_eq_map hooks rule adjust]
      simp only [Option.map_some, liftM_map, bind_map_left]

/-- An opened layout does what the layout does. -/
theorem Layout.run_opened (layout : Layout α) :
    (layout.opened : OpenLayout μ α).run hooks kind children context
      = layout.run hooks kind children context := by
  induction layout with
  | done value => rfl
  | fail error => rfl
  | overflow cause => rfl
  | ask index rule adjust next ih =>
      rw [Layout.opened, OpenLayout.run, Layout.run, id, renderChild_map_adjust]
      congr 1
      funext answer
      exact ih answer

end Opened

theorem Printer.render_function (hooks : Hooks σ μ) (printer : Printer) (scope : Scope)
    (children : List (Renderer σ μ)) :
    PrintFunction.render hooks printer.kind printer.function scope children
      = printer.render hooks scope children := by
  funext context
  simp only [PrintFunction.render, Printer.render, Printer.function, Layout.run_opened]

mutual

/-- Without functions of their own, printers render as their layouts say. -/
theorem Tree.renderWith_none (hooks : Hooks σ μ) : (tree : Tree) →
    tree.renderWith hooks (fun _ => none) = tree.render hooks
  | .node id parentKind printer children => by
    rw [renderWith, render, renderersWith_none hooks children]
    exact printer.render_function hooks _ _

theorem Tree.renderersWith_none (hooks : Hooks σ μ) : (trees : List Tree) →
    Tree.renderersWith hooks (fun _ => none) trees = Tree.renderers hooks trees
  | [] => rfl
  | tree :: trees => by
    rw [renderersWith, renderers, renderWith_none hooks tree, renderersWith_none hooks trees]

end

end Print

end ClassForge
