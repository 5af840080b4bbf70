import ClassForge.Print.Arena

/-!
# Where an Outline Ends Up

An outline is put into an arena one printer at a time, and read back from it
slot by slot. Nothing in either direction mentions outlines as a whole: the
first pass only ever appends a slot and lengthens one list of children, the
second only ever looks up an id among the later slots. This module says what
the two passes come to.

`slotsAt` is the block of slots that an outline occupies when the first of them
has a given id. A parent comes before its children and a child's own block
before that of its next sibling, so every id inside the block can be computed
from the sizes of the outlines in front of it. `toList_graft` is the frame
condition that goes with it: behind the block nothing is written, and in front
of it one list of children has become longer by one id.

`placed` is the tree that is read back. `tree_eq_placed` is the only statement
that a rendering needs: the detour through the arena changes nothing, it only
tells every printer its id and the kind above it.

## Main definitions

* `Outline.size`: How many printers an outline has.
* `Outline.starts`: The ids of sibling outlines that stand side by side.
* `Outline.slotsAt`: The slots of an outline from an id on.
* `Outline.placed`: The tree of an outline from an id on.
* `Outline.treesAt`: The trees below every slot of an outline.
* `Arena.adopt`: Slots after one of them got further children.

## Theorems

* `Arena.toList_graft`: An outline becomes one block of slots, and nothing else
  changes but its parent's list of children.
* `Outline.treesFrom_slotsAt`: A block is read back as the trees of its outline.
* `Outline.tree_eq_placed`: The tree of an outline is the outline itself, with
  its ids and parents filled in.
-/

namespace ClassForge

namespace Print

namespace Outline

mutual

/-- How many printers an outline has. -/
def size : Outline → Nat
  | .node _ children => sizeAll children + 1

/-- How many printers several outlines have. -/
def sizeAll : List Outline → Nat
  | [] => 0
  | outline :: outlines => size outline + sizeAll outlines

end

/-- The ids of sibling outlines that stand side by side, from `base` on. -/
def starts (base : Nat) : List Outline → List Nat
  | [] => []
  | outline :: outlines => base :: starts (base + outline.size) outlines

mutual

/-- The slots of an outline below `parent`, the first of them with id `base`. -/
def slotsAt (parent : Option Nat) (base : Nat) : Outline → List Slot
  | .node printer children =>
    ⟨printer, parent, starts (base + 1) children⟩ :: slotsAllAt (some base) (base + 1) children

/-- The slots of several outlines below `parent`, from id `base` on. -/
def slotsAllAt (parent : Option Nat) (base : Nat) : List Outline → List Slot
  | [] => []
  | outline :: outlines =>
    slotsAt parent base outline ++ slotsAllAt parent (base + outline.size) outlines

end

mutual

/-- The tree of an outline below a printer of kind `parentKind`, its top with
    id `base`. -/
def placed (parentKind : Option Kind) (base : Nat) : Outline → Tree
  | .node printer children =>
    .node base parentKind printer (placedAll (some printer.kind) (base + 1) children)

/-- The trees of sibling outlines, from id `base` on. -/
def placedAll (parentKind : Option Kind) (base : Nat) : List Outline → List Tree
  | [] => []
  | outline :: outlines =>
    placed parentKind base outline :: placedAll parentKind (base + outline.size) outlines

end

mutual

/-- The trees below every slot of an outline, in slot order. -/
def treesAt (parentKind : Option Kind) (base : Nat) : Outline → List Tree
  | .node printer children =>
    placed parentKind base (.node printer children)
      :: treesAllAt (some printer.kind) (base + 1) children

/-- The trees below every slot of several outlines, in slot order. -/
def treesAllAt (parentKind : Option Kind) (base : Nat) : List Outline → List Tree
  | [] => []
  | outline :: outlines =>
    treesAt parentKind base outline ++ treesAllAt parentKind (base + outline.size) outlines

end

mutual

/-- A block has as many slots as the outline has printers. -/
@[simp] theorem length_slotsAt : (outline : Outline) → (parent : Option Nat) → (base : Nat) →
    (slotsAt parent base outline).length = outline.size
  | .node _ children, _, base => by
    rw [slotsAt, List.length_cons, length_slotsAllAt children, size]

/-- The blocks of several outlines have as many slots as they have printers. -/
@[simp] theorem length_slotsAllAt : (outlines : List Outline) → (parent : Option Nat) →
    (base : Nat) → (slotsAllAt parent base outlines).length = sizeAll outlines
  | [], _, _ => rfl
  | outline :: outlines, parent, base => by
    rw [slotsAllAt, List.length_append, length_slotsAt outline, length_slotsAllAt outlines,
      sizeAll]

end

mutual

/-- There is one tree for every slot of a block. -/
@[simp] theorem length_treesAt : (outline : Outline) → (parentKind : Option Kind) →
    (base : Nat) → (treesAt parentKind base outline).length = outline.size
  | .node _ children, _, base => by
    rw [treesAt, List.length_cons, length_treesAllAt children, size]

/-- There is one tree for every slot of several blocks. -/
@[simp] theorem length_treesAllAt : (outlines : List Outline) → (parentKind : Option Kind) →
    (base : Nat) → (treesAllAt parentKind base outlines).length = sizeAll outlines
  | [], _, _ => rfl
  | outline :: outlines, parentKind, base => by
    rw [treesAllAt, List.length_append, length_treesAt outline, length_treesAllAt outlines,
      sizeAll]

end

/-- The first tree of a block is that of the whole outline. -/
theorem head?_treesAt (outline : Outline) (parentKind : Option Kind) (base : Nat) :
    (treesAt parentKind base outline).head? = some (outline.placed parentKind base) := by
  cases outline
  rfl

end Outline

namespace Arena

/-- Slots after the one of `parent` got further children. Without a parent
    nothing changes. -/
def adopt (parent : Option Nat) (ids : List Nat) (slots : List Slot) : List Slot :=
  match parent with
  | none => slots
  | some above =>
    slots.modify above fun slot => { slot with children := slot.children ++ ids }

/-- Whether `parent` is the id of one of `count` slots, if it is any id. -/
def InRange (parent : Option Nat) (count : Nat) : Prop :=
  ∀ above, parent = some above → above < count

@[simp] theorem length_adopt (parent : Option Nat) (ids : List Nat) (slots : List Slot) :
    (adopt parent ids slots).length = slots.length := by
  cases parent with
  | none => rfl
  | some above => exact List.length_modify _ _ _

theorem adopt_nil (parent : Option Nat) (slots : List Slot) : adopt parent [] slots = slots := by
  cases parent with
  | none => rfl
  | some above =>
      have hid : (fun slot : Slot => { slot with children := slot.children ++ [] }) = id := by
        funext slot
        rw [List.append_nil]
        rfl
      rw [adopt, hid, List.modify_id]

/-- Children that come in two turns come in the order of the turns. -/
theorem adopt_adopt (parent : Option Nat) (first second : List Nat) (slots : List Slot) :
    adopt parent second (adopt parent first slots) = adopt parent (first ++ second) slots := by
  cases parent with
  | none => rfl
  | some above =>
      rw [adopt, adopt, adopt, List.modify_modify_eq]
      congr 1
      funext slot
      simp only [Function.comp_apply, List.append_assoc]

/-- Slots behind the parent's are left alone. -/
theorem adopt_append (parent : Option Nat) (ids : List Nat) (slots others : List Slot)
    (hparent : InRange parent slots.length) :
    adopt parent ids (slots ++ others) = adopt parent ids slots ++ others := by
  cases parent with
  | none => rfl
  | some above =>
      have hlt := hparent above rfl
      -- The changed slot lies in front, and what follows it is only carried along.
      rw [adopt, adopt, List.modify_eq_take_cons_drop hlt,
        List.modify_eq_take_cons_drop (by rw [List.length_append]; omega),
        List.take_append_of_le_length (by omega), List.drop_append_of_le_length (by omega),
        List.getElem_append_left hlt, List.append_assoc, List.cons_append]

/-- The last slot is the only one that gets the children it is given. -/
theorem adopt_concat (ids : List Nat) (slots : List Slot) (slot : Slot) :
    adopt (some slots.length) ids (slots ++ [slot])
      = slots ++ [{ slot with children := slot.children ++ ids }] := by
  -- The id of the last slot is the number of slots in front of it.
  have hlt : slots.length < (slots ++ [slot]).length := by
    rw [List.length_append, List.length_singleton]
    omega
  rw [adopt, List.modify_eq_take_cons_drop hlt, List.take_left, List.getElem_concat_length rfl]
  simp only [List.drop_length_add_append, List.drop_succ_cons, List.drop_nil]

theorem size_eq_length (arena : Arena) : arena.size = arena.slots.toList.length := rfl

theorem toList_push (arena : Arena) (parent : Option Nat) (printer : Printer) :
    (arena.push parent printer).slots.toList
      = adopt parent [arena.size] arena.slots.toList ++ [⟨printer, parent, []⟩] := by
  cases parent with
  | none => exact Array.toList_push
  | some above => rw [push, Array.toList_push, Array.toList_modify, adopt]

mutual

/-- An outline becomes one block of slots behind those that are there. Of these
    only the parent's changes, whose children now end with the block's id. -/
theorem toList_graft : (outline : Outline) → (parent : Option Nat) → (arena : Arena) →
    InRange parent arena.size →
    (graft outline parent arena).slots.toList
      = adopt parent [arena.size] arena.slots.toList ++ outline.slotsAt parent arena.size
  | .node printer children, parent, arena, hparent => by
    have hself : InRange (some arena.size) (arena.push parent printer).size := by
      intro above habove
      rw [size_push]
      cases habove
      exact Nat.lt_succ_self _
    -- The children see an arena whose last slot is their parent.
    have hchildren := toList_graftAll children (some arena.size) (arena.push parent printer) hself
    have hlast := adopt_concat (Outline.starts (arena.size + 1) children)
      (adopt parent [arena.size] arena.slots.toList) ⟨printer, parent, []⟩
    rw [length_adopt, ← size_eq_length, List.nil_append] at hlast
    rw [toList_push, size_push, hlast] at hchildren
    rw [graft, hchildren, List.append_assoc, Outline.slotsAt, List.singleton_append]

/-- Several outlines become one block each, side by side, and their parent gets
    all their ids. -/
theorem toList_graftAll : (outlines : List Outline) → (parent : Option Nat) →
    (arena : Arena) → InRange parent arena.size →
    (graftAll outlines parent arena).slots.toList
      = adopt parent (Outline.starts arena.size outlines) arena.slots.toList
        ++ Outline.slotsAllAt parent arena.size outlines
  | [], parent, arena, _ => by
    rw [graftAll, Outline.starts, adopt_nil, Outline.slotsAllAt, List.append_nil]
  | outline :: outlines, parent, arena, hparent => by
    have hfirst := toList_graft outline parent arena hparent
    -- The first block leaves the parent where it was, so its siblings find it there.
    have hsize : (graft outline parent arena).size = arena.size + outline.size := by
      rw [size_eq_length, hfirst, List.length_append, length_adopt, Outline.length_slotsAt,
        size_eq_length]
    have hparent' : InRange parent (graft outline parent arena).size := by
      intro above habove
      have := hparent above habove
      omega
    have hrest := toList_graftAll outlines parent (graft outline parent arena) hparent'
    have hold : InRange parent (adopt parent [arena.size] arena.slots.toList).length := by
      rw [length_adopt]
      exact hparent
    rw [graftAll, hrest, hfirst, hsize, adopt_append _ _ _ _ hold, adopt_adopt, Outline.starts,
      Outline.slotsAllAt, List.append_assoc, List.singleton_append]

end

/-- The arena of an outline is the outline's block and nothing else. -/
theorem toList_ofOutline (outline : Outline) :
    (ofOutline outline).slots.toList = outline.slotsAt none 0 := by
  have h := toList_graft outline none empty (fun _ habove => by cases habove)
  rw [ofOutline, h]
  rfl

end Arena

namespace Outline

/-- The children of a slot, looked up by id among the trees of the later slots.
    The trees of the first `base - (start + 1)` later slots are anything; from
    there on they are those of the children. -/
theorem filterMap_starts (start : Nat) (later : List Tree) (parentKind : Option Kind) :
    ∀ (outlines : List Outline) (base : Nat) (rest : List Tree), start < base →
      later.drop (base - (start + 1)) = treesAllAt parentKind base outlines ++ rest →
      (starts base outlines).filterMap
          (fun child => if start < child then later[child - (start + 1)]? else none)
        = placedAll parentKind base outlines := by
  -- The induction is on the children still to be found; `base` is the id of the
  -- first of them.
  intro outlines
  induction outlines with
  | nil => intro _ _ _ _; rfl
  | cons outline outlines ih =>
      intro base rest hlt hdrop
      have hhead : later[base - (start + 1)]? = some (outline.placed parentKind base) := by
        rw [← List.head?_drop, hdrop, treesAllAt, List.append_assoc, List.head?_append,
          head?_treesAt]
        rfl
      -- Past the first child's block the trees are those of its siblings.
      have htail : later.drop (base + outline.size - (start + 1))
          = treesAllAt parentKind (base + outline.size) outlines ++ rest := by
        rw [show base + outline.size - (start + 1) = base - (start + 1) + outline.size by omega,
          ← List.drop_drop, hdrop, treesAllAt, List.append_assoc,
          List.drop_left' (length_treesAt outline parentKind base)]
      rw [starts, placedAll, List.filterMap_cons, if_pos hlt, hhead,
        ih (base + outline.size) rest (by omega) htail]

mutual

/-- A block is read back as the trees of its outline, if the kinds of its slots
    are looked up rightly. -/
theorem treesFrom_slotsAt (kindOf : Nat → Option Kind) : (outline : Outline) →
    (parent : Option Nat) → (base : Nat) → (rest : List Slot) →
    (∀ i slot, (slotsAt parent base outline)[i]? = some slot →
      kindOf (base + i) = some slot.printer.kind) →
    Arena.treesFrom kindOf base (slotsAt parent base outline ++ rest)
      = treesAt (parent.bind kindOf) base outline
        ++ Arena.treesFrom kindOf (base + outline.size) rest
  | .node printer children, parent, base, rest, hkind => by
    have hself : kindOf base = some printer.kind := hkind 0 _ rfl
    -- Behind the slot of the printer itself stand the blocks of its children.
    have hbelow : ∀ i slot, (slotsAllAt (some base) (base + 1) children)[i]? = some slot →
        kindOf (base + 1 + i) = some slot.printer.kind := by
      intro i slot hslot
      have h := hkind (i + 1) slot (by rw [slotsAt, List.getElem?_cons_succ]; exact hslot)
      rwa [show base + (i + 1) = base + 1 + i by omega] at h
    have hlater := treesFrom_slotsAllAt kindOf children (some base) (base + 1) rest hbelow
    rw [Option.bind_some, hself] at hlater
    -- No tree lies between the slot and those of its first child.
    have hchildren := filterMap_starts base _ (some printer.kind) children (base + 1)
      (Arena.treesFrom kindOf (base + 1 + sizeAll children) rest) (Nat.lt_succ_self _)
      (by rw [Nat.sub_self, List.drop_zero])
    rw [slotsAt, List.cons_append, Arena.treesFrom]
    simp only [hlater]
    rw [hchildren, treesAt, placed, List.cons_append, size,
      show base + (sizeAll children + 1) = base + 1 + sizeAll children by omega]

/-- Several blocks are read back as the trees of their outlines. -/
theorem treesFrom_slotsAllAt (kindOf : Nat → Option Kind) : (outlines : List Outline) →
    (parent : Option Nat) → (base : Nat) → (rest : List Slot) →
    (∀ i slot, (slotsAllAt parent base outlines)[i]? = some slot →
      kindOf (base + i) = some slot.printer.kind) →
    Arena.treesFrom kindOf base (slotsAllAt parent base outlines ++ rest)
      = treesAllAt (parent.bind kindOf) base outlines
        ++ Arena.treesFrom kindOf (base + sizeAll outlines) rest
  | [], _, _, _, _ => rfl
  | outline :: outlines, parent, base, rest, hkind => by
    -- Kinds are looked up by position, so the first block and the others each have
    -- to be found in the whole.
    have hfirst : ∀ i slot, (slotsAt parent base outline)[i]? = some slot →
        kindOf (base + i) = some slot.printer.kind := by
      intro i slot hslot
      refine hkind i slot ?_
      rw [slotsAllAt, List.getElem?_append_left (List.getElem?_eq_some_iff.mp hslot).1]
      exact hslot
    have hrest : ∀ i slot,
        (slotsAllAt parent (base + outline.size) outlines)[i]? = some slot →
        kindOf (base + outline.size + i) = some slot.printer.kind := by
      intro i slot hslot
      have h := hkind (outline.size + i) slot (by
        rw [slotsAllAt, List.getElem?_append_right (by rw [length_slotsAt]; omega),
          length_slotsAt, Nat.add_sub_cancel_left]
        exact hslot)
      rwa [← Nat.add_assoc] at h
    rw [slotsAllAt, List.append_assoc, treesFrom_slotsAt kindOf outline parent base _ hfirst,
      treesFrom_slotsAllAt kindOf outlines parent _ rest hrest, treesAllAt, sizeAll,
      List.append_assoc, Nat.add_assoc]

end

theorem exists_placed_of_mem {child : Tree} {parentKind : Option Kind} {base : Nat}
    {children : List Outline} (hmem : child ∈ placedAll parentKind base children) :
    ∃ outline ∈ children, ∃ start, child = outline.placed parentKind start := by
  induction children generalizing base with
  | nil => exact absurd hmem List.not_mem_nil
  | cons outline outlines ih =>
      rw [placedAll] at hmem
      rcases List.mem_cons.mp hmem with rfl | hmem
      · exact ⟨outline, List.mem_cons_self, base, rfl⟩
      · rcases ih hmem with ⟨other, hother, start, heq⟩
        exact ⟨other, List.mem_cons_of_mem _ hother, start, heq⟩

/-- The trees of an outline's own arena are the trees of its block. -/
theorem trees_ofOutline (outline : Outline) :
    (Arena.ofOutline outline).trees = treesAt none 0 outline := by
  have hkind : ∀ i slot, (slotsAt none 0 outline)[i]? = some slot →
      (Arena.ofOutline outline).kind? (0 + i) = some slot.printer.kind := by
    intro i slot hslot
    rw [Nat.zero_add, Arena.kind?, ← Array.getElem?_toList, Arena.toList_ofOutline, hslot]
    rfl
  -- The block is the whole arena, so there is nothing left behind it.
  have h := treesFrom_slotsAt (Arena.ofOutline outline).kind? outline none 0 [] hkind
  rw [List.append_nil, Arena.treesFrom, List.append_nil] at h
  rw [Arena.trees, Arena.toList_ofOutline, h]
  rfl

/-- The tree of an outline is the outline itself, numbered from zero and with
    the kinds of the parents filled in. -/
theorem tree_eq_placed (outline : Outline) : outline.tree = outline.placed none 0 := by
  have hhead := head?_treesAt outline none 0
  rw [← trees_ofOutline, List.head?_eq_getElem?] at hhead
  rw [tree, Arena.tree, List.get_eq_getElem]
  exact (List.getElem?_eq_some_iff.mp hhead).2

end Outline

end Print

end ClassForge
