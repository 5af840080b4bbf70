import ClassForge.Print.Overflow

/-!
# Indentation State

Every frame of a rendering has a state: the number of levels its text is
indented by, and the states it was derived from. A child frame never changes
the state above it. It gets a new link, so that the chain from any frame tells
the whole history of levels down to it.

## Main definitions

* `IndentState`: A chain of level counts, the newest first.
* `Rule`: How a child's level differs from its parent's.
* `StateGenerator`: How the state of a child frame is made.

## Theorems

* `IndentState.level_derive`: Deriving adds one ancestor.
-/

namespace ClassForge

namespace Print

/-- The level count of a frame together with those of the states it was derived
    from, nearest first. -/
structure IndentState where
  /-- The level count in force. -/
  size : Size
  /-- The level counts of the ancestors, nearest first. -/
  ancestors : List Size
  deriving DecidableEq

namespace IndentState

/-- No level and no ancestor. -/
def initial : IndentState := ⟨0, []⟩

/-- The level counts from this state up to its root. -/
def chain (state : IndentState) : List Size := state.size :: state.ancestors

/-- How many states this one was derived from. -/
def level (state : IndentState) : Nat := state.ancestors.length

/-- A new link below this state that starts with the same level count. -/
def derive (state : IndentState) : IndentState := ⟨state.size, state.chain⟩

/-- The state at the end of a chain given from the root down. An empty list
    gives the initial state. -/
def ofSizes : List Size → IndentState
  | [] => initial
  | size :: sizes => sizes.foldl (fun state next => { state.derive with size := next }) ⟨size, []⟩

/-- Deriving adds one ancestor. -/
theorem level_derive (state : IndentState) : state.derive.level = state.level + 1 := rfl

end IndentState

/-- How the level count of a child frame differs from its parent's. -/
inductive Rule where
  /-- The same level. -/
  | keep
  /-- One level deeper. -/
  | indent
  /-- One level back, but never below zero. -/
  | dedent
  /-- A fixed level. -/
  | indentTo (size : Size)
  deriving DecidableEq

/-- The state a rule makes of a state, in place. Only one level deeper can
    overflow. -/
def Rule.apply (rule : Rule) (state : IndentState) : Except Overflow IndentState :=
  match rule with
  | .keep => .ok state
  | .indent => (Size.add state.size 1).map fun size => { state with size }
  | .dedent => .ok { state with size := if state.size = 0 then 0 else state.size - 1 }
  | .indentTo size => .ok { state with size }

/-- How the state of a child frame is made from the parent's state and a rule. The
    result depends on these two alone: a generator with a state of its own, such as
    one that counts its calls, is not covered. -/
abbrev StateGenerator := IndentState → Rule → Except Overflow IndentState

namespace StateGenerator

/-- Derive a link and apply the rule to it. -/
def standard : StateGenerator := fun previous rule => rule.apply previous.derive

/-- Derive a link and ignore the rule. -/
def frozen : StateGenerator := fun previous _ => .ok previous.derive

/-- Start afresh: apply the rule to a state without ancestors. -/
def detached : StateGenerator := fun _ rule => rule.apply .initial

/-- The standard state with `extra` more levels. -/
def plus (extra : Size) : StateGenerator := fun previous rule => do
  let state ← standard previous rule
  let size ← Size.add state.size extra
  return { state with size }

end StateGenerator

end Print

end ClassForge
