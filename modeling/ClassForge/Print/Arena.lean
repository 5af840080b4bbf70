import ClassForge.Print.Outline

/-!
# Arenas and Trees

Two further forms of what an outline describes. An arena holds printers in
numbered slots, in the order in which they were put in, and is what ids refer
to. A tree is the part of an arena below one slot, with everything a printer
may ask about its place.

An outline goes into an arena in one pass, parents before children, so that a
subtree fills one block of consecutive slots. An arena may also be filled by
hand in any order in which parents come before children.

## Main definitions

* `Arena`: Printers in numbered slots.
* `Arena.push`, `Arena.graft`: Put in one printer, or a whole outline.
* `Tree`: A printer with its place and its children.
* `Arena.tree`: The tree below a slot.

## Theorems

* `Arena.size_push`: Putting in a printer adds one slot.
* `Arena.size_le_graft`: An outline never removes a slot.
* `Arena.length_trees`: There is one tree for every slot.
-/

namespace ClassForge

namespace Print

/-- A printer in an arena, with the links to its parent and children. -/
structure Slot where
  /-- The printer. -/
  printer : Printer
  /-- The id of the slot above it, if any. -/
  parent : Option Nat
  /-- The ids of the slots directly below it, in the order they were put in. -/
  children : List Nat

/-- Printers in numbered slots. -/
structure Arena where
  /-- The slots, numbered from zero. -/
  slots : Array Slot

namespace Arena

/-- The arena without slots. -/
def empty : Arena := ⟨#[]⟩

/-- How many slots there are; also the id that the next printer gets. -/
def size (arena : Arena) : Nat := arena.slots.size

/-- Whether there is no slot. -/
def isEmpty (arena : Arena) : Bool := arena.size = 0

/-- The kind of the printer in a slot. -/
def kind? (arena : Arena) (id : Nat) : Option Kind :=
  arena.slots[id]?.map fun slot => slot.printer.kind

/-- Put in a printer as the last child of `parent`. -/
def push (arena : Arena) (parent : Option Nat) (printer : Printer) : Arena :=
  let linked :=
    match parent with
    | none => arena.slots
    | some above =>
      arena.slots.modify above fun slot => { slot with children := slot.children ++ [arena.size] }
  ⟨linked.push ⟨printer, parent, []⟩⟩

mutual

/-- Put in an outline below `parent`, parents before children. Its own printer
    gets the next id. -/
def graft : Outline → Option Nat → Arena → Arena
  | .node printer children => fun parent arena =>
    graftAll children (some arena.size) (arena.push parent printer)

/-- Put in several outlines below `parent`, one after the other. -/
def graftAll : List Outline → Option Nat → Arena → Arena
  | [] => fun _ arena => arena
  | outline :: outlines => fun parent arena =>
    graftAll outlines parent (graft outline parent arena)

end

/-- The arena that holds exactly one outline. -/
def ofOutline (outline : Outline) : Arena := graft outline none empty

/-- Putting in a printer adds one slot. -/
@[simp] theorem size_push (arena : Arena) (parent : Option Nat) (printer : Printer) :
    (arena.push parent printer).size = arena.size + 1 := by
  cases parent <;> simp [push, size]

mutual

/-- An outline never removes a slot. -/
theorem size_le_graft : (outline : Outline) → (parent : Option Nat) → (arena : Arena) →
    arena.size + 1 ≤ (graft outline parent arena).size
  | .node printer children, parent, arena => by
    have h := size_le_graftAll children (some arena.size) (arena.push parent printer)
    rwa [size_push] at h

/-- Several outlines never remove a slot. -/
theorem size_le_graftAll : (outlines : List Outline) → (parent : Option Nat) →
    (arena : Arena) → arena.size ≤ (graftAll outlines parent arena).size
  | [], _, _ => Nat.le_refl _
  | outline :: outlines, parent, arena =>
    Nat.le_trans (Nat.le_trans (Nat.le_succ _) (size_le_graft outline parent arena))
      (size_le_graftAll outlines parent _)

end

/-- The arena of an outline has a first slot, the outline's own printer. -/
theorem size_ofOutline_pos (outline : Outline) : 0 < (ofOutline outline).size :=
  Nat.lt_of_lt_of_le (Nat.succ_pos _) (size_le_graft outline none empty)

end Arena

/-- A printer with its place in an arena and its children. -/
inductive Tree where
  /-- The printer in slot `id`, below a printer of kind `parentKind`. -/
  | node (id : Nat) (parentKind : Option Kind) (printer : Printer) (children : List Tree)

namespace Tree

/-- The slot a tree starts from. -/
def id : Tree → Nat
  | .node id _ _ _ => id

/-- The printer at the top. -/
def printer : Tree → Printer
  | .node _ _ printer _ => printer

/-- The trees directly below. -/
def children : Tree → List Tree
  | .node _ _ _ children => children

/-- What the printer at the top may ask about its place. -/
def scope : Tree → Scope
  | .node id parentKind printer children =>
    ⟨id, printer.kind, parentKind, children.map Tree.id⟩

end Tree

namespace Arena

/-- The trees below a run of slots, numbered from `start`. A child has a larger
    id than its parent, so its tree is found among those of the later slots. -/
def treesFrom (kindOf : Nat → Option Kind) : (start : Nat) → List Slot → List Tree
  | _, [] => []
  | start, slot :: slots =>
    let later := treesFrom kindOf (start + 1) slots
    let below (child : Nat) : Option Tree :=
      if start < child then later[child - (start + 1)]? else none
    .node start (slot.parent.bind kindOf) slot.printer (slot.children.filterMap below) :: later

/-- The trees below all slots, in slot order. -/
def trees (arena : Arena) : List Tree := treesFrom arena.kind? 0 arena.slots.toList

/-- There is one tree for every slot. -/
theorem length_treesFrom (kindOf : Nat → Option Kind) (start : Nat) (slots : List Slot) :
    (treesFrom kindOf start slots).length = slots.length := by
  induction slots generalizing start with
  | nil => rfl
  | cons slot slots ih => simp [treesFrom, ih]

/-- There is one tree for every slot. -/
theorem length_trees (arena : Arena) : arena.trees.length = arena.size := by
  simp [trees, length_treesFrom, size]

/-- The tree below a slot. -/
def tree (arena : Arena) (root : Fin arena.size) : Tree :=
  arena.trees.get (root.cast arena.length_trees.symm)

end Arena

/-- The line that reports that an outline has been put into an arena. -/
def Outline.builtLine (outline : Outline) : String :=
  "DEBUG built printer tree printers=" ++ (Arena.ofOutline outline).size.repr
    ++ " root=" ++ outline.printer.kind.name

/-- The tree of an outline, numbered as in an arena of its own. -/
def Outline.tree (outline : Outline) : Tree :=
  (Arena.ofOutline outline).tree ⟨0, Arena.size_ofOutline_pos outline⟩

end Print

end ClassForge
