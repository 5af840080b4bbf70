import ClassForge.Proofs.Print.Forest

/-!
# Filling an Arena

Putting an outline into an arena that is already in use. Printers go in one at a time, and
each gets whatever id is free. The children of a printer are put below the id that it got,
and between two children of one printer all that is below the first of them goes in. So
nothing in the process itself says that ids come in any order.

They do nevertheless. An outline takes the next ids in a row, its own printer the first of
them, and every part of it takes a row of its own inside. `Tree.preorder` is the order in
question. What has been in the arena before stays as it is, but for one entry at the end
of the list of the parent.

## Main definitions

* `Arena.put`, `Outline.attach`: Put in a printer, or an outline, and give the id it got.
* `Arena.putOver`, `Arena.putEach`: Put in what is below a printer.
* `Tree.preorder`: The ids of a tree, parents before children.
* `Arena.GainsBlock`: An arena before and after an outline was put in.

## Theorems

* `Outline.run_attach`: The printers go where they are said to go.
* `Outline.attach_one`, `Outline.attach_two`, `Outline.attach_three`: Putting in a printer
  with a few children, step by step.
* `Outline.preorder_placed`: An outline that is numbered in a row is numbered in preorder.
* `Arena.getElem?_graft_of_lt`: What has been in the arena before.
* `Arena.drop_trees_graft`: The trees of what is new.
* `Arena.gainsBlock_attach`: All that putting in an outline does.
-/

namespace ClassForge

namespace Print

/-- Put in a printer as the last child of `parent`, and give the id that it got. -/
def Arena.put (parent : Option Nat) (printer : Printer) : StateM Arena Nat :=
  fun arena => (arena.size, arena.push parent printer)

/-- Put in a printer, and below it what is put below an id. -/
def Arena.putOver (printer : Printer) (below : Nat → StateM Arena Unit) (parent : Option Nat) :
    StateM Arena Nat := do
  let id ← Arena.put parent printer
  below id
  return id

/-- Put in something for each of several items, below one printer. -/
def Arena.putEach {α : Type} (putOne : α → Option Nat → StateM Arena Nat) :
    List α → Nat → StateM Arena Unit
  | [] => fun _ => return
  | item :: items => fun above => do
    let _ ← putOne item (some above)
    Arena.putEach putOne items above

namespace Outline

mutual

/-- Put in an outline below `parent`, one printer at a time, and give the id that its own
    printer got. The children go below that id. -/
def attach : Outline → Option Nat → StateM Arena Nat
  | .node printer children => fun parent => do
    let id ← Arena.put parent printer
    attachAll children id
    return id

/-- Put in several outlines below a printer, one after the other. -/
def attachAll : List Outline → Nat → StateM Arena Unit
  | [] => fun _ => return
  | outline :: outlines => fun above => do
    let _ ← attach outline (some above)
    attachAll outlines above

end

mutual

/-- An outline is put in as if it were known beforehand that its own printer gets the next
    id. -/
theorem run_attach : (outline : Outline) → (parent : Option Nat) → (arena : Arena) →
    (outline.attach parent).run arena = (arena.size, Arena.graft outline parent arena)
  | .node printer children, parent, arena => by
    have hchildren := run_attachAll children arena.size (arena.push parent printer)
    rw [attach, Arena.graft]
    change (arena.size, ((attachAll children arena.size).run (arena.push parent printer)).2) = _
    rw [hchildren]

theorem run_attachAll : (outlines : List Outline) → (above : Nat) → (arena : Arena) →
    (attachAll outlines above).run arena = ((), Arena.graftAll outlines (some above) arena)
  | [], _, _ => rfl
  | outline :: outlines, above, arena => by
    have hfirst := run_attach outline (some above) arena
    rw [attachAll, Arena.graftAll]
    change (attachAll outlines above).run ((outline.attach (some above)).run arena).2 = _
    rw [hfirst, run_attachAll outlines above]

end

section Steps

variable {printer : Printer} {first second third : Outline}

/-- Putting in a fixed text is putting in its printer. -/
theorem attach_text (name content : String) :
    (text name content).attach = fun parent => Arena.put parent (.text name content) := by
  unfold text
  funext parent
  simp only [attach, attachAll, pure_bind, bind_pure]

theorem attach_node (printer : Printer) (children : List Outline) :
    (node printer children).attach = Arena.putOver printer (attachAll children) := by
  funext parent
  rw [attach, Arena.putOver]

theorem attach_one : (node printer [first]).attach = fun parent => do
    let id ← Arena.put parent printer
    let _ ← first.attach (some id)
    return id := by
  funext parent
  simp only [attach, attachAll, bind_assoc, pure_bind]

theorem attach_two : (node printer [first, second]).attach = fun parent => do
    let id ← Arena.put parent printer
    let _ ← first.attach (some id)
    let _ ← second.attach (some id)
    return id := by
  funext parent
  simp only [attach, attachAll, bind_assoc, pure_bind]

theorem attach_three : (node printer [first, second, third]).attach = fun parent => do
    let id ← Arena.put parent printer
    let _ ← first.attach (some id)
    let _ ← second.attach (some id)
    let _ ← third.attach (some id)
    return id := by
  funext parent
  simp only [attach, attachAll, bind_assoc, pure_bind]

/-- What puts in several things one after the other puts in their outlines. -/
theorem eq_attachAll {α : Type} {putAll : List α → Nat → StateM Arena Unit}
    {putOne : α → Option Nat → StateM Arena Nat} {outlineOf : α → Outline}
    (hnil : putAll [] = fun _ => return)
    (hcons : ∀ item items, putAll (item :: items) = fun above => do
      let _ ← putOne item (some above)
      putAll items above) {items : List α}
    (h : ∀ item ∈ items, putOne item = (outlineOf item).attach) :
    putAll items = attachAll (items.map outlineOf) := by
  induction items with
  | nil => rw [hnil, List.map_nil, attachAll]
  | cons item items ih =>
      rw [List.forall_mem_cons] at h
      rw [hcons, h.1, ih h.2, List.map_cons, attachAll]

theorem putEach_eq {α : Type} {putOne : α → Option Nat → StateM Arena Nat}
    {outlineOf : α → Outline} (h : ∀ item, putOne item = (outlineOf item).attach)
    (items : List α) : Arena.putEach putOne items = attachAll (items.map outlineOf) :=
  eq_attachAll rfl (fun _ _ => rfl) fun item _ => h item

end Steps

end Outline

namespace Tree

mutual

/-- The ids of a tree, children in order and behind their parent. -/
def preorder : Tree → List Nat
  | .node id _ _ children => id :: preorders children

/-- The ids of several trees, one after the other. -/
def preorders : List Tree → List Nat
  | [] => []
  | tree :: trees => tree.preorder ++ preorders trees

end

end Tree

namespace Outline

theorem id_placed (outline : Outline) (parentKind : Option Kind) (base : Nat) :
    (outline.placed parentKind base).id = base := by
  cases outline
  rfl

mutual

/-- An outline that is numbered in a row is numbered in preorder. -/
theorem preorder_placed : (outline : Outline) → (parentKind : Option Kind) → (base : Nat) →
    (outline.placed parentKind base).preorder = List.range' base outline.size
  | .node printer children, parentKind, base => by
    rw [placed, Tree.preorder, preorders_placedAll children, size, List.range'_succ]

theorem preorders_placedAll : (outlines : List Outline) → (parentKind : Option Kind) →
    (base : Nat) →
    Tree.preorders (placedAll parentKind base outlines) = List.range' base (sizeAll outlines)
  | [], _, _ => rfl
  | outline :: outlines, parentKind, base => by
    rw [placedAll, Tree.preorders, preorder_placed outline, preorders_placedAll outlines, sizeAll,
      ← List.range'_append_1]

end

mutual

/-- Below every slot of an outline is some outline, numbered from that slot on. -/
theorem exists_placed_of_mem_treesAt : (outline : Outline) → {parentKind : Option Kind} →
    {base : Nat} → {tree : Tree} → tree ∈ treesAt parentKind base outline →
    ∃ (part : Outline) (kind : Option Kind) (start : Nat), tree = part.placed kind start
  | .node printer children, parentKind, base, tree, hmem => by
    rw [treesAt] at hmem
    rcases List.mem_cons.mp hmem with rfl | hmem
    · exact ⟨_, parentKind, base, rfl⟩
    · exact exists_placed_of_mem_treesAllAt children hmem

theorem exists_placed_of_mem_treesAllAt : (outlines : List Outline) →
    {parentKind : Option Kind} → {base : Nat} → {tree : Tree} →
    tree ∈ treesAllAt parentKind base outlines →
    ∃ (part : Outline) (kind : Option Kind) (start : Nat), tree = part.placed kind start
  | [], _, _, _, hmem => absurd hmem List.not_mem_nil
  | outline :: outlines, parentKind, base, tree, hmem => by
    rw [treesAllAt] at hmem
    rcases List.mem_append.mp hmem with hmem | hmem
    · exact exists_placed_of_mem_treesAt outline hmem
    · exact exists_placed_of_mem_treesAllAt outlines hmem

end

end Outline

namespace Arena

variable {arena : Arena} {parent : Option Nat}

theorem getElem?_adopt (parent : Option Nat) (ids : List Nat) (slots : List Slot) (id : Nat) :
    (adopt parent ids slots)[id]? = slots[id]?.map fun slot =>
      if parent = some id then { slot with children := slot.children ++ ids } else slot := by
  cases parent with
  | none => simp only [adopt, reduceCtorEq, if_false, Option.map_id']
  | some above =>
      rw [adopt, List.getElem?_modify]
      by_cases habove : above = id
      · simp only [habove, if_true, Option.map_eq_map]
      · simp only [Option.some.injEq, habove, if_false, Option.map_eq_map]

theorem size_graft (outline : Outline) (hparent : InRange parent arena.size) :
    (graft outline parent arena).size = arena.size + outline.size := by
  rw [size_eq_length, toList_graft outline parent arena hparent, List.length_append, length_adopt,
    Outline.length_slotsAt, size_eq_length]

/-- Of the slots that have been there, only the parent's has changed. -/
theorem getElem?_graft_of_lt (outline : Outline) (hparent : InRange parent arena.size) {id : Nat}
    (hid : id < arena.size) :
    (graft outline parent arena).slots[id]? = arena.slots[id]?.map fun slot =>
      if parent = some id then { slot with children := slot.children ++ [arena.size] }
      else slot := by
  have hfront : id < (adopt parent [arena.size] arena.slots.toList).length := by
    rwa [length_adopt]
  rw [← Array.getElem?_toList, toList_graft outline parent arena hparent,
    List.getElem?_append_left hfront, getElem?_adopt, Array.getElem?_toList]

theorem kind?_graft_of_lt (outline : Outline) (hparent : InRange parent arena.size) {id : Nat}
    (hid : id < arena.size) : (graft outline parent arena).kind? id = arena.kind? id := by
  rw [kind?, getElem?_graft_of_lt outline hparent hid, kind?, Option.map_map]
  congr 1
  funext slot
  rw [Function.comp_apply]
  split <;> rfl

/-- The trees below later slots do not depend on the earlier ones. -/
theorem drop_treesFrom (kindOf : Nat → Option Kind) (start : Nat) (front slots : List Slot) :
    (treesFrom kindOf start (front ++ slots)).drop front.length
      = treesFrom kindOf (start + front.length) slots := by
  induction front generalizing start with
  | nil => rfl
  | cons slot front ih =>
      rw [List.cons_append, treesFrom, List.length_cons, List.drop_succ_cons, ih,
        Nat.add_right_comm, Nat.add_assoc]

/-- The trees below the slots that are new are those of the outline. -/
theorem drop_trees_graft (outline : Outline) (hparent : InRange parent arena.size) :
    (graft outline parent arena).trees.drop arena.size
      = outline.treesAt (parent.bind arena.kind?) arena.size := by
  have htoList := toList_graft outline parent arena hparent
  have hlength : (adopt parent [arena.size] arena.slots.toList).length = arena.size :=
    length_adopt ..
  -- The kinds of the new slots are looked up behind all the others.
  have hkind : ∀ i slot, (outline.slotsAt parent arena.size)[i]? = some slot →
      (graft outline parent arena).kind? (arena.size + i) = some slot.printer.kind := by
    intro i slot hslot
    rw [kind?, ← Array.getElem?_toList, htoList, List.getElem?_append_right (by omega), hlength,
      Nat.add_sub_cancel_left, hslot]
    rfl
  have hparentKind : parent.bind (graft outline parent arena).kind? = parent.bind arena.kind? := by
    cases parent with
    | none => rfl
    | some above => exact kind?_graft_of_lt outline hparent (hparent above rfl)
  have hdrop := drop_treesFrom (graft outline parent arena).kind? 0
    (adopt parent [arena.size] arena.slots.toList) (outline.slotsAt parent arena.size)
  have hread := Outline.treesFrom_slotsAt (graft outline parent arena).kind? outline parent
    arena.size [] hkind
  rw [List.append_nil, treesFrom, List.append_nil, hparentKind] at hread
  rw [hlength, Nat.zero_add, hread, ← htoList] at hdrop
  exact hdrop

/-- The tree of an outline is found where the outline was put in. -/
theorem holds_graft (outline : Outline) (hparent : InRange parent arena.size) :
    (graft outline parent arena).Holds (outline.placed (parent.bind arena.kind?) arena.size) := by
  have hhead := Outline.head?_treesAt outline (parent.bind arena.kind?) arena.size
  rw [← drop_trees_graft outline hparent, List.head?_drop] at hhead
  rw [Holds, Outline.id_placed, hhead]

theorem exists_placed_of_holds (outline : Outline) (hparent : InRange parent arena.size)
    {tree : Tree} (h : (graft outline parent arena).Holds tree) (hnew : arena.size ≤ tree.id) :
    ∃ (part : Outline) (kind : Option Kind) (start : Nat), tree = part.placed kind start := by
  have hmem : tree ∈ (graft outline parent arena).trees.drop arena.size := by
    refine List.mem_of_getElem? (i := tree.id - arena.size) ?_
    rw [List.getElem?_drop, Nat.add_sub_cancel' hnew]
    exact h
  rw [drop_trees_graft outline hparent] at hmem
  exact Outline.exists_placed_of_mem_treesAt outline hmem

/-- An arena before and after an outline of `count` printers was put in below `parent`,
    which gave an id. -/
structure GainsBlock (before : Arena) (parent : Option Nat) (outline : Outline) (count : Nat)
    (given : Nat × Arena) : Prop where
  arena_eq : given.2 = graft outline parent before
  built : given.2.Built
  id_eq : given.1 = before.size
  size_eq : given.2.size = before.size + count
  /-- A slot that has been there is as it was, unless it is the parent's: its list of
      children has become longer by the id. -/
  earlier : ∀ id slot, before.slots[id]? = some slot →
    given.2.slots[id]? = some (if parent = some id
      then { slot with children := slot.children ++ [given.1] } else slot)
  /-- The tree below the id is the outline. -/
  holds : given.2.Holds (outline.placed (parent.bind before.kind?) given.1)
  /-- All new slots are below the id, and no others. -/
  reaches_iff : ∀ id, given.2.Reaches given.1 id ↔ before.size ≤ id ∧ id < before.size + count
  /-- What is below a new slot takes as many ids in a row as it has, in preorder. -/
  preorder_eq : ∀ tree, given.2.Holds tree → before.size ≤ tree.id →
    tree.preorder = List.range' tree.id tree.preorder.length

/-- Putting in an outline does not do anything else. -/
theorem gainsBlock_attach (hbuilt : arena.Built) (hparent : InRange parent arena.size)
    (outline : Outline) :
    arena.GainsBlock parent outline outline.size ((outline.attach parent).run arena) := by
  have hafter := built_graft outline parent hbuilt hparent
  have hholds := holds_graft outline hparent
  rw [Outline.run_attach]
  refine ⟨rfl, hafter, rfl, size_graft outline hparent, fun id slot hslot => ?_, hholds,
    fun id => ?_, fun tree htree hnew => ?_⟩
  · rw [getElem?_graft_of_lt outline hparent (lt_of_slot hslot), hslot]
    rfl
  · -- In postorder or not, the ids of the outline are those of the block.
    have hbelow : ∀ id, id ∈ _ ↔ _ := fun id => mem_postorder_iff hafter hholds
    rw [Outline.id_placed] at hbelow
    rw [← hbelow, (Outline.perm_postorder outline _ _).mem_iff, List.mem_range'_1]
  · -- A part of the outline is numbered in a row for the same reason as the whole.
    rcases exists_placed_of_holds outline hparent htree hnew with ⟨part, kind, start, rfl⟩
    rw [Outline.id_placed, Outline.preorder_placed, List.length_range']

end Arena

end Print

end ClassForge
