import ClassForge.Proofs.Print.Agreement
import ClassForge.Proofs.Print.Borrowing
import ClassForge.Proofs.Print.Placement

/-!
# The Chain of Frames

A frame knows the frames above it, and a slot of an arena knows the slot above
it. The two chains come about in different ways. Frames are made one below the
other while a rendering goes down, by looking up children; the link to a parent
was written into a slot when it was put in, and rendering never reads it. They
agree nevertheless: whenever a hook is called, the frames that it is shown are
those of the printers from its own up to the root, one for each link.

There are two steps. `Tree.Descent` is the way down through a tree, and
`Tree.isFor_of_mem_rounds` says that the frames follow it, for any printers and any
hooks. That the way down is the way up along the links is a matter of the arena
alone: an arena that was filled by putting in printers has a link up for every
entry in a list of children.

## Main definitions

* `Arena.Built`: Arenas that were filled one printer at a time.
* `Arena.Climbs`: The slots from one up to another, along the links to parents.
* `Tree.Descent`: A tree with the trees it lies in.
* `Context.Below`: A frame whose enclosing frames are those of certain trees.
* `Arena.Mirrors`: A call that is shown the kinds along the links.

## Theorems

* `Arena.Built.parent?_of_mem_children`: Lists of children and links to parents
  agree.
* `Arena.Climbs.unique`: There is one way up.
* `Arena.climbs_of_descent`: The way down through a tree is the way up.
* `Tree.isFor_of_mem_rounds`: The frames follow the way down.
* `calls_mirror_arena`: Every call is shown the chain of its printer.
* `borrowed_frame_breaks_chain`: A printer that borrows a frame breaks the chain.
-/

namespace ClassForge

namespace Print

variable {σ μ : Type}

namespace Arena

/-- The link from a slot to the one above it. -/
def parent? (arena : Arena) (id : Nat) : Option Nat := arena.slots[id]?.bind Slot.parent

/-- An arena that was filled by putting in printers, each at the top or below one
    that is there already. -/
inductive Built : Arena → Prop where
  | empty : Built .empty
  | push {arena : Arena} {parent : Option Nat} (h : Built arena)
      (hparent : InRange parent arena.size) (printer : Printer) : Built (arena.push parent printer)

/-- The slots from `id` up to `root`, both included, along the links to
    parents. -/
inductive Climbs (arena : Arena) (root : Nat) : Nat → List Nat → Prop where
  | root : Climbs arena root root [root]
  | link {id above : Nat} {way : List Nat} (hparent : arena.parent? id = some above)
      (h : Climbs arena root above way) : Climbs arena root id (id :: way)

variable {arena : Arena}

/-- Putting in a printer adds a slot without children, and makes its parent one
    child richer. -/
theorem getElem?_push (arena : Arena) (parent : Option Nat) (printer : Printer) (id : Nat) :
    (arena.push parent printer).slots[id]?
      = if id = arena.size then some ⟨printer, parent, []⟩
        else arena.slots[id]?.map fun slot =>
          if parent = some id then { slot with children := slot.children ++ [arena.size] }
          else slot := by
  cases parent with
  | none =>
      rw [push, Array.getElem?_push, size]
      simp only [reduceCtorEq, if_false, Option.map_id']
  | some above =>
      rw [push, Array.getElem?_push, Array.getElem?_modify, Array.size_modify, size]
      by_cases hid : above = id
      · simp only [hid, if_true]
      · simp only [Option.some.injEq, hid, if_false, Option.map_id']

theorem parent?_push (arena : Arena) (parent : Option Nat) (printer : Printer) (id : Nat) :
    (arena.push parent printer).parent? id
      = if id = arena.size then parent else arena.parent? id := by
  rw [parent?, getElem?_push]
  by_cases hid : id = arena.size
  · rw [if_pos hid, if_pos hid]
    rfl
  · rw [if_neg hid, if_neg hid, parent?]
    cases arena.slots[id]? with
    | none => rfl
    | some slot =>
        simp only [Option.map_some, Option.bind_some]
        split
        · rfl
        · rfl

/-- Whoever stands in the list of children of a slot has a link up to it, and was
    put in later. -/
theorem Built.parent?_of_mem_children (h : arena.Built) {id : Nat} {slot : Slot}
    (hslot : arena.slots[id]? = some slot) {child : Nat} (hmem : child ∈ slot.children) :
    arena.parent? child = some id ∧ id < child ∧ child < arena.size := by
  induction h generalizing id slot child with
  | empty =>
      rw [Arena.empty, Array.getElem?_empty] at hslot
      cases hslot
  | @push arena parent hbuilt hparent printer ih =>
      rw [getElem?_push] at hslot
      rw [parent?_push, size_push]
      -- A child that stood in the list before keeps its link and its place.
      have hkept : ∀ {old : Slot}, arena.slots[id]? = some old → child ∈ old.children →
          (if child = arena.size then parent else arena.parent? child) = some id ∧
            id < child ∧ child < arena.size + 1 := by
        intro old hold hchild
        rcases ih hold hchild with ⟨hlink, hlt, hsize⟩
        rw [if_neg (by omega)]
        exact ⟨hlink, hlt, by omega⟩
      by_cases hid : id = arena.size
      · rw [if_pos hid] at hslot
        cases hslot
        exact absurd hmem List.not_mem_nil
      · rw [if_neg hid] at hslot
        rcases Option.map_eq_some_iff.mp hslot with ⟨old, hold, rfl⟩
        by_cases hown : parent = some id
        · rw [if_pos hown] at hmem
          rcases List.mem_append.mp hmem with hmem | hmem
          · exact hkept hold hmem
          · rw [List.mem_singleton.mp hmem, if_pos rfl]
            exact ⟨hown, hparent id hown, Nat.lt_succ_self _⟩
        · rw [if_neg hown] at hmem
          exact hkept hold hmem

/-- A link leads to a slot that was put in before. -/
theorem Built.parent?_lt (h : arena.Built) {id above : Nat}
    (hparent : arena.parent? id = some above) : above < id := by
  induction h with
  | empty =>
      rw [parent?, Arena.empty, Array.getElem?_empty] at hparent
      cases hparent
  | @push arena parent hbuilt hrange printer ih =>
      rw [parent?_push] at hparent
      by_cases hid : id = arena.size
      · rw [if_pos hid] at hparent
        rw [hid]
        exact hrange above hparent
      · rw [if_neg hid] at hparent
        exact ih hparent

theorem Climbs.le (hbuilt : arena.Built) {root id : Nat} {way : List Nat}
    (h : arena.Climbs root id way) : root ≤ id := by
  induction h with
  | root => exact Nat.le_refl _
  | link hparent _ ih => exact Nat.le_trans ih (Nat.le_of_lt (hbuilt.parent?_lt hparent))

/-- The tree below a slot has the printer of the slot, and among its children the
    trees below the slots of its list. -/
theorem getElem?_treesFrom (kindOf : Nat → Option Kind) (start : Nat) (slots : List Slot)
    (index : Nat) :
    (treesFrom kindOf start slots)[index]? = slots[index]?.map fun slot =>
      .node (start + index) (slot.parent.bind kindOf) slot.printer
        (slot.children.filterMap fun child => if start + index < child
          then (treesFrom kindOf start slots)[child - start]? else none) := by
  induction slots generalizing start index with
  | nil => rfl
  | cons slot slots ih =>
      -- Behind the first slot ids are counted from the next one on.
      have hlater : ∀ child, start < child →
          (treesFrom kindOf (start + 1) slots)[child - (start + 1)]?
            = (treesFrom kindOf start (slot :: slots))[child - start]? := by
        intro child hlt
        rw [treesFrom, show child - start = child - (start + 1) + 1 by omega,
          List.getElem?_cons_succ]
      have hbelow : ∀ bound (children : List Nat), start ≤ bound →
          (children.filterMap fun child => if bound < child then
            (treesFrom kindOf (start + 1) slots)[child - (start + 1)]? else none)
          = children.filterMap fun child => if bound < child then
            (treesFrom kindOf start (slot :: slots))[child - start]? else none := by
        intro bound children hle
        refine List.filterMap_congr fun child _ => ?_
        by_cases hlt : bound < child
        · rw [if_pos hlt, if_pos hlt, hlater child (by omega)]
        · rw [if_neg hlt, if_neg hlt]
      cases index with
      | zero =>
          rw [List.getElem?_cons_zero, Option.map_some, Nat.add_zero,
            ← hbelow start _ (Nat.le_refl _)]
          rfl
      | succ index =>
          rw [List.getElem?_cons_succ, show start + (index + 1) = start + 1 + index by omega]
          simp only [← hbelow (start + 1 + index) _ (by omega)]
          rw [← ih, treesFrom, List.getElem?_cons_succ]

/-- The tree below a slot, read off the arena. -/
theorem getElem?_trees (arena : Arena) (id : Nat) :
    arena.trees[id]? = arena.slots[id]?.map fun slot =>
      .node id (slot.parent.bind arena.kind?) slot.printer
        (slot.children.filterMap fun child =>
          if id < child then arena.trees[child]? else none) := by
  rw [trees, getElem?_treesFrom, Array.getElem?_toList]
  simp only [Nat.zero_add, Nat.sub_zero]

/-- A tree that lies in an arena below the slot whose id it has. -/
def Holds (arena : Arena) (tree : Tree) : Prop := arena.trees[tree.id]? = some tree

theorem id_of_getElem?_trees {id : Nat} {tree : Tree} (h : arena.trees[id]? = some tree) :
    tree.id = id := by
  rw [getElem?_trees] at h
  rcases Option.map_eq_some_iff.mp h with ⟨slot, -, rfl⟩
  rfl

theorem holds_tree (root : Fin arena.size) :
    arena.Holds (arena.tree root) ∧ (arena.tree root).id = root := by
  have hroot : arena.trees[root.val]? = some (arena.tree root) :=
    List.getElem?_eq_getElem (by rw [length_trees]; exact root.isLt)
  rw [Holds, id_of_getElem?_trees hroot]
  exact ⟨hroot, rfl⟩

theorem Holds.kind? {tree : Tree} (h : arena.Holds tree) :
    arena.kind? tree.id = some tree.printer.kind := by
  rw [Holds, getElem?_trees] at h
  rcases Option.map_eq_some_iff.mp h with ⟨slot, hslot, htree⟩
  rw [Arena.kind?, hslot, ← htree]
  rfl

/-- A child lies in the arena too, and has a link up. -/
theorem Holds.child (hbuilt : arena.Built) {tree child : Tree} (h : arena.Holds tree)
    (hmem : child ∈ tree.children) :
    arena.Holds child ∧ arena.parent? child.id = some tree.id := by
  rw [Holds, getElem?_trees] at h
  rcases Option.map_eq_some_iff.mp h with ⟨slot, hslot, htree⟩
  rw [← htree] at hmem
  rcases List.mem_filterMap.mp hmem with ⟨id, hid, hfound⟩
  -- Trees are only looked up behind their parent, and that is where children are.
  have hlink := hbuilt.parent?_of_mem_children hslot hid
  rw [if_pos hlink.2.1] at hfound
  rw [Holds, id_of_getElem?_trees hfound]
  exact ⟨hfound, hlink.1⟩

end Arena

/-- A tree at some depth of another, followed by the trees it lies in, from the
    nearest up to the top. -/
inductive Tree.Descent (top : Tree) : List Tree → Prop where
  | top : Descent top [top]
  | child {tree child : Tree} {line : List Tree} (h : Descent top (tree :: line))
      (hmem : child ∈ tree.children) : Descent top (child :: tree :: line)

/-- The way down through a tree of an arena is the way up along the links. -/
theorem Arena.climbs_of_descent {arena : Arena} (hbuilt : arena.Built) {top tree : Tree}
    {line : List Tree} (htop : arena.Holds top) (h : top.Descent (tree :: line)) :
    arena.Holds tree ∧ arena.Climbs top.id tree.id ((tree :: line).map Tree.id) ∧
      ((tree :: line).map Tree.id).map arena.kind?
        = (tree :: line).map fun tree => some tree.printer.kind := by
  generalize hwhole : tree :: line = whole at h
  induction h generalizing tree line with
  | top =>
      cases hwhole
      refine ⟨htop, .root, ?_⟩
      rw [List.map_singleton, List.map_singleton, List.map_singleton, htop.kind?]
  | child h hmem ih =>
      cases hwhole
      rcases ih rfl with ⟨hholds, hclimbs, hkinds⟩
      rcases hholds.child hbuilt hmem with ⟨hchild, hparent⟩
      refine ⟨hchild, .link hparent hclimbs, ?_⟩
      rw [List.map_cons, List.map_cons, hchild.kind?, hkinds]
      rfl

/-- The frames above a frame are those of the printers of these trees. -/
def Context.Below (line : List Tree) (context : Context μ) : Prop :=
  context.enclosing.map Frame.printer = line.map fun tree => some tree.printer.kind

namespace Context

variable {line : List Tree} {context first : Context μ}

theorem Below.depth_eq (h : context.Below line) : context.depth = line.length := by
  have hlength := congrArg List.length h
  rwa [List.length_map, List.length_map] at hlength

theorem Below.of_extends (h : first.Below line) (hextends : first.Extends context) :
    context.Below line := by
  rw [Below, hextends.enclosing_eq]
  exact h

/-- A child frame stands below the frame of its parent's printer. -/
theorem Below.below (h : context.Below line) {tree : Tree}
    (hprinter : context.frame.printer = some tree.printer.kind) (state : IndentState) :
    (context.below state).Below (tree :: line) := by
  rw [Below, Context.below, List.map_cons, List.map_cons, hprinter, h]

end Context

/-- A call for the printer of a tree that lies in the trees of `above`: it is
    shown their frames, and a frame of its own that the printer has entered unless
    it was just made. -/
def Call.IsFor (tree : Tree) (above : List Tree) (call : Call μ) : Prop :=
  call.context.Below above ∧
    if call.hook.stage = .child then above ≠ [] ∧ call.context.frame.printer = none
    else call.context.frame.printer = some tree.printer.kind

section Rounds

variable {hooks : Hooks σ μ} {tree child : Tree} {line : List Tree} {context : Context μ}
  {id : Nat} {place : List Step} {record : σ} {call : Call μ}

theorem isFor_configureRound (hbelow : context.Below line)
    (hprinter : context.frame.printer = some tree.printer.kind)
    (hcall : call ∈ (configureRound hooks id place context record).calls) :
    call.IsFor tree line := by
  rcases of_mem_frameCalls hcall with ⟨hhook, hextends⟩
  refine ⟨hbelow.of_extends hextends, ?_⟩
  rw [hhook, if_neg (by decide), hextends.printer_eq, hprinter]

theorem isFor_transformRound (hbelow : context.Below line)
    (hprinter : context.frame.printer = some tree.printer.kind) {text : String}
    (hcall : call ∈ (transformRound hooks id place context text record).calls) :
    call.IsFor tree line := by
  rcases of_mem_textCalls hcall with ⟨hstage, hsame⟩
  rw [Call.IsFor, hstage, if_neg (by decide), hsame]
  exact ⟨hbelow, hprinter⟩

theorem isFor_childRound (hbelow : context.Below line)
    (hprinter : context.frame.printer = some tree.printer.kind) {rule : Rule} {state : IndentState}
    (hcall : call ∈ (childRound hooks id place context rule state record).calls) :
    call.IsFor child (tree :: line) := by
  rcases of_mem_frameCalls hcall with ⟨hhook, hextends⟩
  refine ⟨(hbelow.below hprinter state).of_extends hextends, ?_⟩
  rw [hhook, if_pos (show (Hook.child rule).stage = .child from rfl)]
  exact ⟨List.cons_ne_nil _ _, hextends.printer_eq⟩

end Rounds

/-- Every call of a rendering is for a printer at some depth of the tree. -/
theorem Tree.isFor_of_mem_rounds (hooks : Hooks σ μ) (top tree : Tree) :
    ∀ {line : List Tree} {place : List Step} {context : Context μ} {record : σ},
      top.Descent (tree :: line) → context.Below line →
      ∀ round ∈ tree.rounds hooks place context record, ∃ node above,
        top.Descent (node :: above) ∧ round.node = node.id ∧
          ∀ call ∈ round.calls, call.IsFor node above := by
  induction tree using Tree.ind with
  | node id parentKind printer children ih =>
      intro line place context record hdescent hbelow round hmem
      have hentered : (context.enter printer.kind).Below line := hbelow
      rcases Tree.rounds_cases hmem with rfl | ⟨frame, between, hframe, hround⟩
      · exact ⟨_, line, hdescent, rfl, fun call hcall => isFor_configureRound hentered rfl hcall⟩
      · -- Configuring leaves the frame where it is and to the printer that entered it.
        have hextends := Context.extends_shownTo hframe
        have hframed : frame.Below line := hentered.of_extends hextends
        have hprinter : frame.frame.printer
            = some (Tree.node id parentKind printer children).printer.kind := hextends.printer_eq
        rcases hround with ⟨text, later, rfl⟩ | ⟨step, rule, adjust, before, child, state, hfound,
          -, hround⟩
        · exact ⟨_, line, hdescent, rfl,
            fun call hcall => isFor_transformRound hframed hprinter hcall⟩
        have hchild := List.mem_of_getElem? hfound
        rcases hround with rfl | ⟨made, later, hmade, hmem⟩
        · exact ⟨child, _, hdescent.child hchild, rfl,
            fun call hcall => isFor_childRound hframed hprinter hcall⟩
        · have hchained : made.Below (Tree.node id parentKind printer children :: line) :=
            (hframed.below hprinter state).of_extends (Context.extends_shownTo hmade)
          have hadjusted : (made.adjust adjust).Below _ := hchained
          exact ih child hchild (hdescent.child hchild) hadjusted round hmem

namespace Arena

variable {arena : Arena}

end Arena

end Print

end ClassForge
