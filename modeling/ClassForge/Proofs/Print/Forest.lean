import Mathlib.Data.List.Nodup
import ClassForge.Proofs.Print.Tracing

/-!
# Arenas are Forests

Putting a printer into an arena writes to two places: a new slot at the end, and
the list of children of a slot anywhere before it. Slots below different parents
may be put in by turns, so that neither the slots of a subtree nor the entries of
a list stand side by side. What is kept nevertheless is the agreement between the
two directions. Every link up has its entry in a list of children, every entry its
link up, and links only lead to slots that were there before.

Everything else follows from that. Going down along lists of children leads to
larger and larger ids, so it comes to an end; and it never leads to the same slot
on two ways, since there is only one way up. What can be reached from a slot is
therefore a tree, and rendering, which goes down by looking up ids, is a recursion
with a result for every slot. `Arena.Unfolds` is the equation of that recursion,
and `Arena.Unfolds.eq_render` says that it has no other solution than rendering
the tree below a slot.

## Main definitions

* `Arena.childIds`: The list of children of a slot.
* `Arena.Forest`: Links and lists that agree.
* `Arena.Reaches`: What can be reached by going down.
* `Arena.Unfolds`: Rendering slot by slot.
* `Layout.Spares`, `Tree.Thrifty`: Plans and trees that ask for no child twice.
* `visited`: The slots that a rendering enters, one after the other.

## Theorems

* `Arena.Built.forest`: Every arena that was filled one printer at a time.
* `Arena.Climbs.linear`: The slots above a slot are above one another.
* `Arena.Holds.nodup_postorder`, `Arena.mem_postorder_iff`: The slots that can be
  reached form a tree.
* `Arena.Unfolds.eq_render`, `Arena.unfolds_draw`: Rendering by ids.
* `Tree.Thrifty.visited_rounds`: No slot is entered twice.
* `built_arena_is_forest`: All of this.
-/

namespace ClassForge

namespace Print

variable {σ μ α : Type}

namespace Arena

variable {arena : Arena}

/-- The ids in the list of children of a slot. -/
def childIds (arena : Arena) (id : Nat) : List Nat := (arena.slots[id]?.map Slot.children).getD []

/-- What a printer in a slot may ask about its place. -/
def scopeOf (arena : Arena) (id : Nat) (slot : Slot) : Scope :=
  ⟨id, slot.printer.kind, slot.parent.bind arena.kind?, slot.children⟩

/-- An arena in which links up and lists of children agree. -/
structure Forest (arena : Arena) : Prop where
  parent_lt : ∀ id above, arena.parent? id = some above → above < id
  mem_childIds_iff : ∀ id child, child ∈ arena.childIds id ↔ arena.parent? child = some id
  /-- No id stands in two lists, or twice in one. -/
  nodup_children : (arena.slots.toList.flatMap Slot.children).Nodup
  ascending : ∀ id, (arena.childIds id).Pairwise (· < ·)

/-- The slots that can be reached from `root` along lists of children. -/
inductive Reaches (arena : Arena) (root : Nat) : Nat → Prop where
  | root : Reaches arena root root
  | child {id child : Nat} (h : Reaches arena root id) (hmem : child ∈ arena.childIds id) :
      Reaches arena root child

section Lists

theorem childIds_of_slot {id : Nat} {slot : Slot} (hslot : arena.slots[id]? = some slot) :
    arena.childIds id = slot.children := by
  rw [childIds, hslot]
  rfl

theorem mem_childIds {id child : Nat} :
    child ∈ arena.childIds id ↔ ∃ slot, arena.slots[id]? = some slot ∧ child ∈ slot.children := by
  rw [childIds]
  cases arena.slots[id]? with
  | none => exact ⟨fun hmem => absurd hmem List.not_mem_nil, fun ⟨_, hslot, _⟩ => by cases hslot⟩
  | some slot =>
      refine ⟨fun hmem => ⟨slot, rfl, hmem⟩, ?_⟩
      rintro ⟨_, hslot, hmem⟩
      cases hslot
      exact hmem

theorem exists_slot_of_lt {id : Nat} (h : id < arena.size) :
    ∃ slot, arena.slots[id]? = some slot :=
  ⟨arena.slots[id], Array.getElem?_eq_getElem h⟩

theorem lt_of_slot {id : Nat} {slot : Slot} (hslot : arena.slots[id]? = some slot) :
    id < arena.size :=
  (Array.getElem?_eq_some_iff.mp hslot).1

theorem lt_of_parent? {id above : Nat} (h : arena.parent? id = some above) : id < arena.size := by
  rcases Option.bind_eq_some_iff.mp h with ⟨slot, hslot, -⟩
  exact lt_of_slot hslot

/-- Putting in a printer makes one list longer by one id. -/
theorem mem_childIds_push {parent : Option Nat} (hparent : InRange parent arena.size)
    (printer : Printer) {id child : Nat} :
    child ∈ (arena.push parent printer).childIds id
      ↔ child ∈ arena.childIds id ∨ child = arena.size ∧ parent = some id := by
  rw [mem_childIds, mem_childIds, getElem?_push]
  by_cases hid : id = arena.size
  · -- The new slot has no children, and nobody could have it for a parent.
    subst hid
    rw [if_pos rfl]
    constructor
    · rintro ⟨slot, hslot, hmem⟩
      cases hslot
      exact absurd hmem List.not_mem_nil
    · rintro (⟨slot, hslot, -⟩ | ⟨-, hself⟩)
      · exact absurd (lt_of_slot hslot) (Nat.lt_irrefl _)
      · exact absurd (hparent _ hself) (Nat.lt_irrefl _)
  · rw [if_neg hid]
    by_cases hown : parent = some id
    · rcases exists_slot_of_lt (hparent id hown) with ⟨slot, hslot⟩
      simp only [hslot, hown, if_true, Option.map_some, Option.some.injEq, exists_eq_left',
        List.mem_append, List.mem_singleton, and_true]
    · simp only [hown, if_false, Option.map_id', and_false, or_false]

/-- Lists of children and links up say the same. -/
theorem Built.mem_childIds_iff (h : arena.Built) {id child : Nat} :
    child ∈ arena.childIds id ↔ arena.parent? child = some id := by
  induction h with
  | empty =>
      rw [mem_childIds, parent?, Arena.empty, Array.getElem?_empty, Array.getElem?_empty]
      constructor
      · rintro ⟨slot, hslot, -⟩
        cases hslot
      · intro hlink
        cases hlink
  | @push arena parent _ hparent printer ih =>
      rw [mem_childIds_push hparent, parent?_push, ih]
      by_cases hnew : child = arena.size
      · -- The new slot had no link before it was there.
        subst hnew
        have hnone : arena.parent? arena.size ≠ some id :=
          fun hlink => absurd (lt_of_parent? hlink) (Nat.lt_irrefl _)
        rw [if_pos rfl, or_iff_right hnone, and_iff_right rfl]
      · rw [if_neg hnew, or_iff_left fun hand => hnew hand.1]

theorem Built.ascending_childIds (h : arena.Built) (id : Nat) :
    (arena.childIds id).Pairwise (· < ·) := by
  rw [childIds]
  cases hslot : arena.slots[id]? with
  | none => exact .nil
  | some slot => exact h.children_ascending hslot

theorem Built.forest (h : arena.Built) : arena.Forest where
  parent_lt := fun _ _ => h.parent?_lt
  mem_childIds_iff := fun _ _ => h.mem_childIds_iff
  ascending := h.ascending_childIds
  nodup_children := by
    have hget : ∀ id (hid : id < arena.slots.toList.length),
        arena.childIds id = arena.slots.toList[id].children := by
      intro id hid
      exact childIds_of_slot (by rw [← Array.getElem?_toList, List.getElem?_eq_getElem hid])
    refine List.nodup_flatMap.mpr ⟨fun slot hmem => ?_, List.pairwise_iff_getElem.mpr ?_⟩
    · rcases List.getElem_of_mem hmem with ⟨id, hid, rfl⟩
      rw [← hget id hid]
      exact (h.ascending_childIds id).imp Nat.ne_of_lt
    · -- An id in two lists would have two links up.
      intro id other hid hother hlt child hmem hmem'
      rw [← hget id hid] at hmem
      rw [← hget other hother] at hmem'
      have hlink := (h.mem_childIds_iff.mp hmem).symm.trans (h.mem_childIds_iff.mp hmem')
      exact absurd (Option.some.inj hlink) (Nat.ne_of_lt hlt)

theorem Built.lt_of_mem_childIds (h : arena.Built) {id child : Nat}
    (hmem : child ∈ arena.childIds id) : id < child ∧ child < arena.size :=
  have hlink := h.mem_childIds_iff.mp hmem
  ⟨h.parent?_lt hlink, lt_of_parent? hlink⟩

/-- Going down comes to an end. -/
theorem Built.wellFounded (h : arena.Built) :
    WellFounded fun child id => child ∈ arena.childIds id := by
  -- Ids get larger on the way down, so the number of those that are left gets smaller.
  refine Subrelation.wf (fun {child id} hmem => ?_)
    (InvImage.wf (fun id => arena.size - id) Nat.lt_wfRel.wf)
  have hlt := h.lt_of_mem_childIds hmem
  change arena.size - child < arena.size - id
  omega

theorem Built.lt_of_reaches (h : arena.Built) {root id : Nat} (hroot : root < arena.size)
    (hreaches : arena.Reaches root id) : id < arena.size := by
  cases hreaches with
  | root => exact hroot
  | child _ hmem => exact (h.lt_of_mem_childIds hmem).2

end Lists

section Trees

/-- Of two slots above a third one, one is above the other. -/
theorem Climbs.linear {one other id : Nat} {way way' : List Nat} (h : arena.Climbs one id way)
    (h' : arena.Climbs other id way') :
    (∃ between, arena.Climbs one other between) ∨ ∃ between, arena.Climbs other one between := by
  induction h generalizing way' with
  | root => exact .inr ⟨way', h'⟩
  | link hparent h ih =>
      cases h' with
      | root => exact .inl ⟨_, .link hparent h⟩
      | link hsame h' =>
          rw [hparent] at hsame
          cases hsame
          exact ih h'

/-- Siblings are not above one another. -/
theorem Climbs.eq_of_siblings (hbuilt : arena.Built) {one other above : Nat} {way : List Nat}
    (hone : arena.parent? one = some above) (hother : arena.parent? other = some above)
    (h : arena.Climbs one other way) : one = other := by
  cases h with
  | root => rfl
  | link hparent h =>
      -- The way up from `other` goes through the common parent, which is too high.
      rw [hother] at hparent
      cases hparent
      exact absurd (h.le hbuilt) (Nat.not_le_of_lt (hbuilt.parent?_lt hone))

theorem Holds.exists_slot {tree : Tree} (h : arena.Holds tree) :
    ∃ slot, arena.slots[tree.id]? = some slot := by
  rw [Holds, getElem?_trees] at h
  rcases Option.map_eq_some_iff.mp h with ⟨slot, hslot, -⟩
  exact ⟨slot, hslot⟩

/-- A tree has all children of its slot, in order. -/
theorem Holds.children_ids (hbuilt : arena.Built) {tree : Tree} (h : arena.Holds tree)
    {slot : Slot} (hslot : arena.slots[tree.id]? = some slot) :
    tree.children.map Tree.id = slot.children := by
  rw [Holds, getElem?_trees, hslot, Option.map_some] at h
  have htree := Option.some.inj h
  rw [← htree, Tree.children, List.map_filterMap]
  have hfound : ∀ child ∈ slot.children, (if tree.id < child then arena.trees[child]? else none).map
      Tree.id = some child := by
    intro child hmem
    have hlt := hbuilt.lt_of_mem_childIds (mem_childIds.mpr ⟨slot, hslot, hmem⟩)
    have hbound : child < arena.trees.length := by
      rw [length_trees]
      exact hlt.2
    have hget := List.getElem?_eq_getElem hbound
    rw [if_pos hlt.1, hget, Option.map_some, id_of_getElem?_trees hget]
  rw [List.filterMap_congr hfound, List.filterMap_some]

theorem Holds.scope_eq (hbuilt : arena.Built) {tree : Tree} (h : arena.Holds tree) {slot : Slot}
    (hslot : arena.slots[tree.id]? = some slot) :
    tree.printer = slot.printer ∧ tree.scope = arena.scopeOf tree.id slot := by
  have hids := h.children_ids hbuilt hslot
  rw [Holds, getElem?_trees, hslot, Option.map_some] at h
  rcases tree with ⟨id, parentKind, printer, children⟩
  injection Option.some.inj h with _ hkind hprinter _
  refine ⟨hprinter.symm, ?_⟩
  rw [Tree.scope, scopeOf, ← hkind, ← hprinter]
  congr 1

end Trees

end Arena

namespace Tree

theorem postorders_eq_flatMap (trees : List Tree) : postorders trees = trees.flatMap postorder := by
  induction trees with
  | nil => rfl
  | cons tree trees ih => rw [postorders, ih, List.flatMap_cons]

theorem postorder_eq (tree : Tree) :
    tree.postorder = tree.children.flatMap postorder ++ [tree.id] := by
  rcases tree with ⟨id, parentKind, printer, children⟩
  rw [postorder, postorders_eq_flatMap]
  rfl

theorem Descent.of_child {top child : Tree} (hmem : child ∈ top.children) {line : List Tree}
    (h : child.Descent line) : top.Descent (line ++ [top]) := by
  induction h with
  | top => exact .child .top hmem
  | child _ hchild ih => exact .child ih hchild

theorem mem_postorder_of_descent {top node : Tree} {line : List Tree}
    (h : top.Descent (node :: line)) : ∀ id ∈ node.postorder, id ∈ top.postorder := by
  generalize hwhole : node :: line = whole at h
  induction h generalizing node line with
  | top =>
      cases hwhole
      exact fun _ hid => hid
  | @child tree child line h hmem ih =>
      cases hwhole
      intro id hid
      refine ih rfl id ?_
      rw [tree.postorder_eq]
      exact List.mem_append_left _ (List.mem_flatMap.mpr ⟨child, hmem, hid⟩)

/-- The ids of a tree are those of the trees at some depth of it. -/
theorem mem_postorder {tree : Tree} {id : Nat} :
    id ∈ tree.postorder ↔ ∃ node line, tree.Descent (node :: line) ∧ node.id = id := by
  constructor
  · induction tree using Tree.ind with
    | node own parentKind printer children ih =>
        intro hid
        rw [postorder_eq] at hid
        rcases List.mem_append.mp hid with hid | hid
        · rcases List.mem_flatMap.mp hid with ⟨child, hmem, hid⟩
          rcases ih child hmem hid with ⟨node, line, hdescent, hnode⟩
          exact ⟨node, _, hdescent.of_child hmem, hnode⟩
        · exact ⟨_, [], .top, (List.mem_singleton.mp hid).symm⟩
  · rintro ⟨node, line, hdescent, rfl⟩
    refine mem_postorder_of_descent hdescent _ ?_
    rw [node.postorder_eq]
    exact List.mem_append_right _ (List.mem_singleton_self _)

end Tree

namespace Arena

variable {arena : Arena}

section Reached

/-- What stands below a slot in its tree is what can be reached from it. -/
theorem mem_postorder_iff (hbuilt : arena.Built) {tree : Tree} (h : arena.Holds tree) {id : Nat} :
    id ∈ tree.postorder ↔ arena.Reaches tree.id id := by
  rw [Tree.mem_postorder]
  constructor
  · rintro ⟨node, line, hdescent, rfl⟩
    generalize hwhole : node :: line = whole at hdescent
    induction hdescent generalizing node line with
    | top =>
        cases hwhole
        exact .root
    | @child above node line hdescent hmem ih =>
        cases hwhole
        rcases climbs_of_descent hbuilt h hdescent with ⟨hholds, -⟩
        rcases hholds.exists_slot with ⟨slot, hslot⟩
        refine .child (ih above line rfl) ?_
        rw [childIds_of_slot hslot, ← hholds.children_ids hbuilt hslot]
        exact List.mem_map_of_mem hmem
  · intro hreaches
    induction hreaches with
    | root => exact ⟨tree, [], .top, rfl⟩
    | @child id child _ hmem ih =>
        rcases ih with ⟨node, line, hdescent, rfl⟩
        rcases climbs_of_descent hbuilt h hdescent with ⟨hholds, -⟩
        rcases hholds.exists_slot with ⟨slot, hslot⟩
        -- The entry of the list is the id of one of the children.
        rw [childIds_of_slot hslot, ← hholds.children_ids hbuilt hslot] at hmem
        rcases List.mem_map.mp hmem with ⟨below, hbelow, rfl⟩
        exact ⟨below, _, .child hdescent hbelow, rfl⟩

theorem Holds.climbs (hbuilt : arena.Built) {tree : Tree} (h : arena.Holds tree) {id : Nat}
    (hid : id ∈ tree.postorder) : ∃ way, arena.Climbs tree.id id way := by
  rcases Tree.mem_postorder.mp hid with ⟨node, line, hdescent, rfl⟩
  exact ⟨_, (climbs_of_descent hbuilt h hdescent).2.1⟩

/-- No slot stands twice below another. -/
theorem Holds.nodup_postorder (hbuilt : arena.Built) {tree : Tree} :
    arena.Holds tree → tree.postorder.Nodup := by
  induction tree using Tree.ind with
  | node id parentKind printer children ih =>
      intro h
      have hchild : ∀ child ∈ children, arena.Holds child ∧ arena.parent? child.id = some id :=
        fun child hmem => h.child hbuilt hmem
      rcases h.exists_slot with ⟨slot, hslot⟩
      have hascending : (children.map Tree.id).Pairwise (· < ·) := by
        rw [show children.map Tree.id = slot.children from h.children_ids hbuilt hslot]
        exact hbuilt.children_ascending hslot
      rw [Tree.postorder_eq]
      refine List.Nodup.append (List.nodup_flatMap.mpr
        ⟨fun child hmem => ih child hmem (hchild child hmem).1, ?_⟩) (List.nodup_singleton _) ?_
      · -- A slot below two siblings would make one of them stand above the other.
        refine (List.pairwise_map.mp hascending).imp_of_mem fun {one other} hone hother hlt => ?_
        intro shared hshared hshared'
        rcases (hchild one hone).1.climbs hbuilt hshared with ⟨way, hway⟩
        rcases (hchild other hother).1.climbs hbuilt hshared' with ⟨way', hway'⟩
        have hsame : one.id = other.id := by
          rcases hway.linear hway' with ⟨between, hbetween⟩ | ⟨between, hbetween⟩
          · exact hbetween.eq_of_siblings hbuilt (hchild one hone).2 (hchild other hother).2
          · exact (hbetween.eq_of_siblings hbuilt (hchild other hother).2 (hchild one hone).2).symm
        exact absurd hsame (Nat.ne_of_lt hlt)
      · -- Whatever stands below a child has a larger id than the slot itself.
        intro below hbelow hself
        rcases List.mem_flatMap.mp hbelow with ⟨child, hmem, hbelow⟩
        rcases (hchild child hmem).1.climbs hbuilt hbelow with ⟨way, hway⟩
        have hle := hway.le hbuilt
        have hlt := hbuilt.parent?_lt (hchild child hmem).2
        have hid : below = id := List.mem_singleton.mp hself
        omega

end Reached

section Recursion

/-- A way to render every slot by going down: its printer asks for the slots in its
    list of children, by their ids. -/
def Unfolds (arena : Arena) (hooks : Hooks σ μ) (draw : Nat → Renderer σ μ) : Prop :=
  ∀ id slot, arena.slots[id]? = some slot →
    draw id = slot.printer.render hooks (arena.scopeOf id slot) (slot.children.map draw)

/-- Rendering the tree below a slot. Where there is no slot there is nothing to
    render. -/
def draw (arena : Arena) (hooks : Hooks σ μ) (id : Nat) : Renderer σ μ :=
  match arena.trees[id]? with
  | some tree => tree.render hooks
  | none => fun _ => pure ""

variable {hooks : Hooks σ μ}

theorem Holds.render_eq (hbuilt : arena.Built) {tree : Tree} (h : arena.Holds tree) {slot : Slot}
    (hslot : arena.slots[tree.id]? = some slot) :
    tree.render hooks = slot.printer.render hooks (arena.scopeOf tree.id slot)
      (tree.children.map (Tree.render hooks)) := by
  rcases h.scope_eq hbuilt hslot with ⟨hprinter, hscope⟩
  rw [← hprinter, ← hscope, ← Tree.renderers_eq_map]
  rcases tree with ⟨id, parentKind, printer, children⟩
  rw [Tree.render]
  rfl

/-- There is no other way to render by ids. -/
theorem Unfolds.eq_render (hbuilt : arena.Built) {draw : Nat → Renderer σ μ}
    (hdraw : arena.Unfolds hooks draw) {tree : Tree} :
    arena.Holds tree → draw tree.id = tree.render hooks := by
  induction tree using Tree.ind with
  | node id parentKind printer children ih =>
      intro h
      rcases h.exists_slot with ⟨slot, hslot⟩
      have hchildren : slot.children.map draw = children.map (Tree.render hooks) := by
        rw [← show children.map Tree.id = slot.children from h.children_ids hbuilt hslot,
          List.map_map]
        exact List.map_congr_left fun child hmem => ih child hmem (h.child hbuilt hmem).1
      rw [hdraw _ slot hslot, h.render_eq hbuilt hslot, hchildren]
      rfl

theorem draw_eq_render {tree : Tree} (h : arena.Holds tree) :
    arena.draw hooks tree.id = tree.render hooks := by
  rw [Holds] at h
  rw [draw, h]

theorem unfolds_draw (hbuilt : arena.Built) (hooks : Hooks σ μ) :
    arena.Unfolds hooks (arena.draw hooks) := by
  intro id slot hslot
  rcases holds_tree ⟨id, lt_of_slot hslot⟩ with ⟨h, hid⟩
  generalize arena.tree ⟨id, lt_of_slot hslot⟩ = tree at h hid
  have hid : tree.id = id := hid
  subst hid
  have hchildren :
      slot.children.map (arena.draw hooks) = tree.children.map (Tree.render hooks) := by
    rw [← h.children_ids hbuilt hslot, List.map_map]
    exact List.map_congr_left fun child hmem => draw_eq_render (h.child hbuilt hmem).1
  rw [draw_eq_render h, h.render_eq hbuilt hslot, hchildren]

end Recursion

end Arena

/-- A plan that asks for no child twice, and for none of the children in `used`. -/
inductive Layout.Spares : List Nat → Layout α → Prop where
  | done (used : List Nat) (value : α) : Spares used (.done value)
  | fail (used : List Nat) (error : PrintError) : Spares used (.fail error)
  | overflow (used : List Nat) (cause : Overflow) : Spares used (.overflow cause)
  | ask {used : List Nat} {index : Nat} {rule : Rule} {adjust : Settings → Settings}
      {next : Except PrintError String → Layout α} (hfresh : index ∉ used)
      (hnext : ∀ answer, Spares (index :: used) (next answer)) :
      Spares used (.ask index rule adjust next)

/-- A tree whose printers ask for no child twice. -/
inductive Tree.Thrifty : Tree → Prop where
  | node {id : Nat} {parentKind : Option Kind} {printer : Printer} {children : List Tree}
      (hlayout : ∀ view,
        (printer.layout (Tree.scope (.node id parentKind printer children)) view).Spares [])
      (hchildren : ∀ child ∈ children, child.Thrifty) :
      Thrifty (.node id parentKind printer children)

/-- The slots that are entered in some rounds, one after the other. Rendering a slot
    starts with configuring a frame for it. -/
def visited (rounds : List (Round μ)) : List Nat :=
  (rounds.filter fun round => round.stage = .configure).map Round.node

section Visits

variable {hooks : Hooks σ μ} {kind : Kind} {trees : List Tree} {context : Context μ}
  {place : List Step} {index : Nat} {rule : Rule} {adjust : Settings → Settings} {record : σ}

theorem visited_append (first second : List (Round μ)) :
    visited (first ++ second) = visited first ++ visited second := by
  rw [visited, List.filter_append, List.map_append]
  rfl

theorem visited_cons {round : Round μ} (h : round.stage = .configure) (rounds : List (Round μ)) :
    visited (round :: rounds) = round.node :: visited rounds := by
  rw [visited, List.filter_cons_of_pos (by rwa [decide_eq_true_eq])]
  rfl

theorem visited_cons_of_ne {round : Round μ} (h : round.stage ≠ .configure)
    (rounds : List (Round μ)) : visited (round :: rounds) = visited rounds := by
  rw [visited, List.filter_cons_of_neg (by rwa [decide_eq_true_eq])]
  rfl

/-- Asking for a child enters what rendering the child enters, if it comes to
    that. -/
theorem visited_askRounds (hooks : Hooks σ μ) (trees : List Tree) :
    visited (askRounds hooks (Tree.reporters hooks trees) place context index rule adjust record)
        = [] ∨
      ∃ child frame later, trees[index]? = some child ∧
        visited (askRounds hooks (Tree.reporters hooks trees) place context index rule adjust
          record) = visited (child.rounds hooks place frame later) := by
  rw [askRounds, Tree.reporters_eq_map, List.getElem?_map]
  cases trees[index]? with
  | none => exact .inl rfl
  | some child =>
      cases context.settings.generator context.state rule with
      | error cause => exact .inl rfl
      | ok state =>
          simp only [Option.map_some]
          rw [visited_cons_of_ne Stage.noConfusion]
          cases (context.child hooks rule adjust).run record with
          | error cause => exact .inl rfl
          | ok pair => exact .inr ⟨child, pair.1, pair.2, rfl, rfl⟩

theorem Tree.index_eq_of_shared (hnodup : (trees.flatMap Tree.postorder).Nodup) {other : Nat}
    {one another : Tree} (hone : trees[index]? = some one) (hanother : trees[other]? = some another)
    {id : Nat} (hid : id ∈ one.postorder) (hid' : id ∈ another.postorder) : index = other := by
  have hdisjoint := List.pairwise_iff_getElem.mp (List.nodup_flatMap.mp hnodup).2
  rcases List.getElem?_eq_some_iff.mp hone with ⟨hlt, rfl⟩
  rcases List.getElem?_eq_some_iff.mp hanother with ⟨hlt', rfl⟩
  rcases Nat.lt_trichotomy index other with hless | rfl | hmore
  · exact absurd hid' (hdisjoint index other hlt hlt' hless hid)
  · rfl
  · exact absurd hid (hdisjoint other index hlt' hlt hmore hid')

/-- A plan that asks for no child twice enters no slot twice, and none below the
    children it spares. -/
theorem Layout.Spares.visited_rounds {layout : Layout α} {used : List Nat}
    (h : layout.Spares used) (hnodup : (trees.flatMap Tree.postorder).Nodup)
    (hchildren : ∀ child ∈ trees, ∀ {place context record},
      (visited (child.rounds hooks place context record)).Nodup ∧
        ∀ id ∈ visited (child.rounds hooks place context record), id ∈ child.postorder)
    {asked : Nat} :
    (visited (layout.rounds hooks kind (Tree.renderers hooks trees) (Tree.reporters hooks trees)
        place context asked record)).Nodup ∧
      ∀ id ∈ visited (layout.rounds hooks kind (Tree.renderers hooks trees)
          (Tree.reporters hooks trees) place context asked record),
        ∃ index child, index ∉ used ∧ trees[index]? = some child ∧ id ∈ child.postorder := by
  -- By induction on the plan. The children used so far grow with every question, so that
  -- what comes later is told apart from what came before.
  induction h generalizing asked record with
  | done | fail | overflow => exact ⟨.nil, fun _ hid => absurd hid List.not_mem_nil⟩
  | @ask used index rule adjust next hfresh _ ih =>
      -- What the first answer takes, and what is asked for after it.
      have hfirst : (visited (askRounds hooks (Tree.reporters hooks trees)
          (place ++ [⟨asked, index⟩]) context index rule adjust record)).Nodup ∧
          ∀ id ∈ visited (askRounds hooks (Tree.reporters hooks trees) (place ++ [⟨asked, index⟩])
            context index rule adjust record),
            ∃ child, trees[index]? = some child ∧ id ∈ child.postorder := by
        rcases visited_askRounds hooks trees with
          hnone | ⟨child, frame, later, hchild, hsame⟩
        · rw [hnone]
          exact ⟨.nil, fun _ hid => absurd hid List.not_mem_nil⟩
        · rcases @hchildren child (List.mem_of_getElem? hchild) _ frame later with ⟨honce, hbelow⟩
          rw [hsame]
          exact ⟨honce, fun id hid => ⟨child, hchild, hbelow id hid⟩⟩
      rw [Layout.rounds, visited_append]
      cases hanswer : (renderChild hooks kind (Tree.renderers hooks trees) context index rule
          adjust).run.run record with
      | error cause =>
          simp only
          rw [show visited ([] : List (Round μ)) = [] from rfl, List.append_nil]
          refine ⟨hfirst.1, fun id hid => ?_⟩
          rcases hfirst.2 id hid with ⟨child, hchild, hmem⟩
          exact ⟨index, child, hfresh, hchild, hmem⟩
      | ok pair =>
          simp only
          rcases @ih pair.1 pair.2 (asked + 1) with ⟨honce, hrest⟩
          refine ⟨hfirst.1.append honce ?_, fun id hid => ?_⟩
          · -- A slot below two children would make them one, and that one is used.
            intro id hid hid'
            rcases hfirst.2 id hid with ⟨child, hchild, hmem⟩
            rcases hrest id hid' with ⟨other, another, hunused, hanother, hmem'⟩
            refine hunused ?_
            rw [Tree.index_eq_of_shared hnodup hchild hanother hmem hmem']
            exact List.mem_cons_self
          · rcases List.mem_append.mp hid with hid | hid
            · rcases hfirst.2 id hid with ⟨child, hchild, hmem⟩
              exact ⟨index, child, hfresh, hchild, hmem⟩
            · rcases hrest id hid with ⟨other, another, hunused, hanother, hmem⟩
              exact ⟨other, another, fun hused => hunused (List.mem_cons_of_mem _ hused), hanother,
                hmem⟩

/-- Rendering a tree enters its own slot first, and then what its plan asks for. -/
theorem Tree.visited_cases {id : Nat} {parentKind : Option Kind} {printer : Printer}
    {children : List Tree} :
    visited ((Tree.node id parentKind printer children).rounds hooks place context record) = [id] ∨
      ∃ frame between,
        visited ((Tree.node id parentKind printer children).rounds hooks place context record)
          = id :: visited ((printer.layout (Tree.scope (.node id parentKind printer children))
              (Context.view frame)).rounds hooks printer.kind (Tree.renderers hooks children)
              (Tree.reporters hooks children) place frame 0 between) := by
  rw [Tree.rounds, Printer.rounds, visited_cons rfl]
  split
  · exact .inl rfl
  · rename_i frame between _
    refine .inr ⟨frame, between, ?_⟩
    rw [visited_append]
    -- In the last round, if there is one, no slot is entered.
    split
    · rw [visited_cons_of_ne Stage.noConfusion]
      exact congrArg (id :: ·) (List.append_nil _)
    · exact congrArg (id :: ·) (List.append_nil _)

/-- Rendering a thrifty tree enters none of its slots twice. -/
theorem Tree.Thrifty.visited_rounds {tree : Tree} (h : tree.Thrifty) :
    tree.postorder.Nodup → ∀ {place : List Step} {context : Context μ} {record : σ},
      (visited (tree.rounds hooks place context record)).Nodup ∧
        ∀ id ∈ visited (tree.rounds hooks place context record), id ∈ tree.postorder := by
  induction h with
  | @node id parentKind printer children hlayout _ ih =>
      intro hnodup place context record
      rw [postorder_eq, Tree.children, Tree.id] at hnodup ⊢
      have hbelow : (children.flatMap postorder).Nodup := hnodup.of_append_left
      have hself : id ∉ children.flatMap postorder := fun hmem =>
        List.disjoint_of_nodup_append hnodup hmem (List.mem_singleton_self _)
      rcases Tree.visited_cases with hsame | ⟨frame, between, hsame⟩
      · rw [hsame]
        exact ⟨List.nodup_singleton _, fun other hother => List.mem_append_right _ hother⟩
      · -- Siblings have no slot in common, so what each of them visits may be put together.
        rcases (hlayout frame.view).visited_rounds hbelow (fun child hmem =>
          ih child hmem ((List.nodup_flatMap.mp hbelow).1 child hmem)) with ⟨honce, hspared⟩
        have hsubset : ∀ other ∈ visited ((printer.layout (Tree.scope (.node id parentKind printer
            children)) frame.view).rounds hooks printer.kind (Tree.renderers hooks children)
            (Tree.reporters hooks children) place frame 0 between),
            other ∈ children.flatMap postorder := by
          intro other hother
          rcases hspared other hother with ⟨index, child, -, hfound, hmem⟩
          exact List.mem_flatMap.mpr ⟨child, List.mem_of_getElem? hfound, hmem⟩
        rw [hsame]
        refine ⟨List.nodup_cons.mpr ⟨fun hmem => hself (hsubset id hmem), honce⟩, ?_⟩
        intro other hother
        rcases List.mem_cons.mp hother with rfl | hother
        · exact List.mem_append_right _ (List.mem_singleton_self _)
        · exact List.mem_append_left _ (hsubset other hother)

end Visits

-- Going through the children in order, none of them is met again.
theorem Layout.Sweeps.spares {indent : Indent} {stop start : Nat} {layout : Layout α}
    (h : layout.Sweeps indent stop start) :
    ∀ {used : List Nat}, (∀ index ∈ used, index < start) → layout.Spares used := by
  induction h with
  | done value => exact fun _ => .done _ value
  | overflow hlead => exact fun _ => .overflow _ _
  | @ask start rule adjust next _ _ hfail _ ih =>
      intro used hused
      refine .ask (fun hmem => Nat.lt_irrefl _ (hused start hmem)) fun answer => ?_
      cases answer with
      | error error =>
          rw [hfail]
          exact .fail _ error
      | ok text =>
          refine ih text (List.forall_mem_cons.mpr ⟨Nat.lt_succ_self _, fun index hmem => ?_⟩)
          exact Nat.lt_succ_of_lt (hused index hmem)

namespace Arena

variable {arena : Arena}

/-- Every printer that can be reached asks for none of its children twice. -/
def AsksOnce (arena : Arena) (root : Nat) : Prop :=
  ∀ id slot, arena.Reaches root id → arena.slots[id]? = some slot →
    ∀ view, (slot.printer.layout (arena.scopeOf id slot) view).Spares []

theorem Reaches.trans {root middle id : Nat} (h : arena.Reaches root middle)
    (hid : arena.Reaches middle id) : arena.Reaches root id := by
  induction hid with
  | root => exact h
  | child _ hmem ih => exact .child ih hmem

theorem Holds.thrifty (hbuilt : arena.Built) {tree : Tree} :
    arena.Holds tree → arena.AsksOnce tree.id → tree.Thrifty := by
  induction tree using Tree.ind with
  | node id parentKind printer children ih =>
      intro h honce
      rcases h.exists_slot with ⟨slot, hslot⟩
      refine .node (fun view => ?_) fun child hmem => ?_
      · rcases h.scope_eq hbuilt hslot with ⟨hprinter, hscope⟩
        have hlayout := honce id slot .root hslot view
        rw [hscope, show printer = slot.printer from hprinter]
        exact hlayout
      · rcases h.child hbuilt hmem with ⟨hholds, hlink⟩
        refine ih child hmem hholds fun below slot hreaches => honce below slot ?_
        exact Reaches.trans (.child .root (hbuilt.mem_childIds_iff.mpr hlink)) hreaches

end Arena

/-- In an arena that was filled one printer at a time, each at the top or below one
    that was there, links and lists of children agree. So going down comes to an end,
    what can be reached from a slot is a tree of slots that are there, and rendering
    by ids is rendering that tree and nothing else. If the printers ask for no child
    twice, no slot is entered twice. -/
theorem built_arena_is_forest {arena : Arena} (hbuilt : arena.Built) :
    arena.Forest ∧
    (WellFounded fun child id => child ∈ arena.childIds id) ∧
    ∀ root : Fin arena.size,
      (arena.tree root).postorder.Nodup ∧
      (∀ id, id ∈ (arena.tree root).postorder ↔ arena.Reaches root id) ∧
      (∀ id, arena.Reaches root id → id < arena.size ∧
        (∀ above, arena.parent? id = some above → above < arena.size) ∧
        ∀ child ∈ arena.childIds id, child < arena.size) ∧
      ∀ {σ μ : Type} (hooks : Hooks σ μ),
        (∃ draw, arena.Unfolds hooks draw) ∧
        (∀ draw, arena.Unfolds hooks draw → draw root = (arena.tree root).render hooks) ∧
        (arena.AsksOnce root → ∀ (context : Context μ) (record : σ),
          (visited ((arena.tree root).rounds hooks [] context record)).Nodup ∧
          ∀ id ∈ visited ((arena.tree root).rounds hooks [] context record),
            arena.Reaches root id) := by
  refine ⟨hbuilt.forest, hbuilt.wellFounded, fun root => ?_⟩
  rcases Arena.holds_tree root with ⟨hholds, hid⟩
  have hnodup := hholds.nodup_postorder hbuilt
  have hmem : ∀ id, id ∈ (arena.tree root).postorder ↔ arena.Reaches root id := by
    intro id
    rw [← hid]
    exact Arena.mem_postorder_iff hbuilt hholds
  refine ⟨hnodup, hmem, fun id hreaches => ?_, fun hooks => ⟨?_, ?_, ?_⟩⟩
  · have hlt := hbuilt.lt_of_reaches root.isLt hreaches
    refine ⟨hlt, fun above hlink => ?_, fun child hchild => (hbuilt.lt_of_mem_childIds hchild).2⟩
    exact Nat.lt_trans (hbuilt.parent?_lt hlink) hlt
  · exact ⟨arena.draw hooks, Arena.unfolds_draw hbuilt hooks⟩
  · intro draw hdraw
    rw [← hid]
    exact hdraw.eq_render hbuilt hholds
  · intro honce context record
    rw [← hid] at honce
    rcases (hholds.thrifty hbuilt honce).visited_rounds hnodup with ⟨hvisited, hbelow⟩
    exact ⟨hvisited, fun id hvisit => (hmem id).mp (hbelow id hvisit)⟩

/-- Two bodies that were filled by turns, each with the statements of its own. -/
theorem interleaved_arena_is_forest :
    let arena := ((((Arena.empty.push none .sequence).push none .sequence).push (some 0)
      (.text "Raw" "a")).push (some 1) (.text "Raw" "b")).push (some 0) (.text "Raw" "c")
    let rounds := (arena.tree ⟨0, by decide⟩).rounds Middleware.hooks []
      (Context.initial .standard [.idle]) .empty
    arena.Built ∧ arena.childIds 0 = [2, 4] ∧ arena.childIds 1 = [3] ∧ arena.AsksOnce 0 ∧
      arena.Forest ∧ (arena.tree ⟨0, by decide⟩).postorder = [2, 4, 0] ∧
      (arena.tree ⟨0, by decide⟩).postorder.Nodup ∧ visited rounds = [0, 2, 4] ∧
      (visited rounds).Nodup := by
  intro arena rounds
  have hbuilt : arena.Built :=
    ((((Arena.Built.empty.push (fun _ h => by cases h) _).push (fun _ h => by cases h) _).push
      (fun _ h => by cases h; decide) _).push (fun _ h => by cases h; decide) _).push
      (fun _ h => by cases h; decide) _
  have hprinter : ∀ (id : Nat) (slot : Slot), arena.slots[id]? = some slot →
      slot.printer = .sequence ∨ ∃ content, slot.printer = .text "Raw" content := by
    intro id slot hslot
    rcases id with _ | _ | _ | _ | _ | id <;> cases hslot
    · exact .inl rfl
    · exact .inl rfl
    · exact .inr ⟨"a", rfl⟩
    · exact .inr ⟨"b", rfl⟩
    · exact .inr ⟨"c", rfl⟩
  have honce : arena.AsksOnce 0 := by
    intro id slot _ hslot view
    rcases hprinter id slot hslot with heq | ⟨content, heq⟩
    · rw [heq]
      exact ((Printer.combines_sequence _).sweeps _ view rfl).spares
        fun _ hmem => absurd hmem List.not_mem_nil
    · rw [heq]
      exact .done _ content
  rcases built_arena_is_forest hbuilt with ⟨hforest, -, hroots⟩
  rcases hroots ⟨0, by decide⟩ with ⟨hnodup, -, -, hrenders⟩
  exact ⟨hbuilt, rfl, rfl, honce, hforest, rfl, hnodup, rfl,
    ((hrenders Middleware.hooks).2.2 honce _ _).1⟩

end Print

end ClassForge
