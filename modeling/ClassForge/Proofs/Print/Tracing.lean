import ClassForge.Proofs.Print.Draft
import ClassForge.Proofs.Print.Lineage
import ClassForge.Proofs.Print.Recording

/-!
# Traces

The trace of the library notes every rendered printer. If the printers of an
outline ask for each of their children once, the trace has one note for every
slot of its arena, in the order in which a traversal leaves the slots. Nothing is
left out and nothing is noted twice: the ids in that order are a rearrangement of
all ids.

Printing can still be given up, if a lead does not fit. With the trace and the
middleware that indents there is only one lead that may not fit, that of one
level, since no frame ever gets deeper than that.

## Main definitions

* `Tree.postorder`: The ids of a tree, children before parents.
* `Middleware.traced`: What the trace notes of a call.
* `Arena.Tells`: A note of the printer in a slot.
* `Outline.Traced`, `Outline.LeavesTrace`: A trace of an outline, and printing that
  leaves one.
* `Context.Shallow`: The frames of printing with the trace and with indentation.

## Theorems

* `Arena.built_ofOutline`: An outline is put in one printer at a time.
* `Outline.perm_postorder`: The ids in postorder are all ids.
* `Tree.rewritten_traversal`: A traversal rewrites texts in postorder.
* `Context.Shallow.process_one`: No lead but that of one level can be too long.
* `Outline.traced_of_print`: What the trace has noted when printing is done.
* `Outline.leavesTrace_of_swept`: Printing ends with a trace, or one level has no
  lead.
-/

namespace ClassForge

namespace Print

namespace Arena

variable {arena : Arena}

-- The list of a slot grows at its end, by ids that have not been there before.
theorem Built.children_ascending (h : arena.Built) {id : Nat} {slot : Slot}
    (hslot : arena.slots[id]? = some slot) : slot.children.Pairwise (· < ·) := by
  induction h generalizing id slot with
  | empty =>
      rw [Arena.empty, Array.getElem?_empty] at hslot
      cases hslot
  | @push arena parent hbuilt hparent printer ih =>
      rw [getElem?_push] at hslot
      -- A new slot has no children, and an old one gets at most the new id.
      by_cases hid : id = arena.size
      · rw [if_pos hid] at hslot
        cases hslot
        exact .nil
      · rw [if_neg hid] at hslot
        rcases Option.map_eq_some_iff.mp hslot with ⟨old, hold, rfl⟩
        by_cases hown : parent = some id
        · rw [if_pos hown]
          refine List.pairwise_append.mpr ⟨ih hold, List.pairwise_singleton _ _, ?_⟩
          intro child hchild last hlast
          rw [List.mem_singleton.mp hlast]
          exact (hbuilt.parent?_of_mem_children hold hchild).2.2
        · rw [if_neg hown]
          exact ih hold

mutual

theorem built_graft : (outline : Outline) → (parent : Option Nat) → {arena : Arena} →
    arena.Built → InRange parent arena.size → (graft outline parent arena).Built
  | .node printer children, parent, arena, h, hparent => by
    have hrange : InRange (some arena.size) (arena.push parent printer).size := by
      intro above habove
      cases habove
      rw [size_push]
      exact Nat.lt_succ_self _
    exact built_graftAll children (some arena.size) (h.push hparent printer) hrange

theorem built_graftAll : (outlines : List Outline) → (parent : Option Nat) → {arena : Arena} →
    arena.Built → InRange parent arena.size → (graftAll outlines parent arena).Built
  | [], _, _, h, _ => h
  | outline :: outlines, parent, arena, h, hparent => by
    have hrange : InRange parent (graft outline parent arena).size := by
      intro above habove
      have hlt := hparent above habove
      have hle := size_le_graft outline parent arena
      omega
    exact built_graftAll outlines parent (built_graft outline parent h hparent) hrange

end

theorem built_ofOutline (outline : Outline) : (ofOutline outline).Built :=
  built_graft outline none .empty fun _ habove => by cases habove

theorem size_ofOutline (outline : Outline) : (ofOutline outline).size = outline.size := by
  rw [size_eq_length, toList_ofOutline, Outline.length_slotsAt]

end Arena

namespace Tree

mutual

/-- The ids of a tree, children in order and before their parent. -/
def postorder : Tree → List Nat
  | .node id _ _ children => postorders children ++ [id]

/-- The ids of several trees, one after the other. -/
def postorders : List Tree → List Nat
  | [] => []
  | tree :: trees => tree.postorder ++ postorders trees

end

/-- The nodes at which a text is rewritten, in the order of the stops. -/
def rewritten (stops : List Stop) : List Nat :=
  (stops.filter fun stop => stop.stage = .transform).map Stop.node

theorem rewritten_append (first second : List Stop) :
    rewritten (first ++ second) = rewritten first ++ rewritten second := by
  rw [rewritten, List.filter_append, List.map_append]
  rfl

theorem rewritten_singleton (stop : Stop) :
    rewritten [stop] = if stop.stage = .transform then [stop.node] else [] := by
  by_cases h : stop.stage = .transform
  · rw [rewritten, List.filter_singleton, decide_eq_true h, if_pos h]
    rfl
  · rw [rewritten, List.filter_singleton, decide_eq_false h, if_neg h]
    rfl

mutual

theorem rewritten_traversal : (tree : Tree) → (place : List Step) →
    rewritten (tree.traversal place) = tree.postorder
  | .node id parentKind printer children, place => by
    have hchildren := rewritten_traversals children place 0
    change rewritten (traversals place 0 children ++ [_]) = _
    rw [rewritten_append, hchildren, postorder]
    rfl

theorem rewritten_traversals : (trees : List Tree) → (place : List Step) → (start : Nat) →
    rewritten (traversals place start trees) = postorders trees
  | [], _, _ => rfl
  | tree :: trees, place, start => by
    have hfirst := rewritten_traversal tree (place ++ [⟨start, start⟩])
    have hrest := rewritten_traversals trees place (start + 1)
    change rewritten (tree.traversal _ ++ traversals place (start + 1) trees) = _
    rw [rewritten_append, hfirst, hrest, postorders]

end

end Tree

namespace Outline

mutual

-- The first id of a block comes last, behind all the others.
theorem perm_postorder : (outline : Outline) → (parentKind : Option Kind) → (base : Nat) →
    (outline.placed parentKind base).postorder.Perm (List.range' base outline.size)
  | .node printer children, parentKind, base => by
    have hchildren := perm_postorders children (some printer.kind) (base + 1)
    rw [placed, Tree.postorder, size, List.range'_succ]
    exact (hchildren.append_right [base]).trans (List.perm_append_singleton _ _)

theorem perm_postorders : (outlines : List Outline) → (parentKind : Option Kind) → (base : Nat) →
    (Tree.postorders (placedAll parentKind base outlines)).Perm
      (List.range' base (sizeAll outlines))
  | [], _, _ => .nil
  | outline :: outlines, parentKind, base => by
    have hfirst := perm_postorder outline parentKind base
    have hrest := perm_postorders outlines parentKind (base + outline.size)
    rw [placedAll, Tree.postorders, sizeAll, ← List.range'_append_1]
    exact hfirst.append hrest

end

theorem Swept.orderly {outline : Outline} (h : outline.Swept) (parentKind : Option Kind)
    (base : Nat) : (outline.placed parentKind base).Orderly := by
  induction h generalizing parentKind base with
  | @node printer children hprinter _ ih =>
      rw [placed]
      refine .node (.inl ?_) fun child hmem => ?_
      · rwa [length_placedAll]
      · rcases exists_placed_of_mem hmem with ⟨outline, houtline, start, rfl⟩
        exact ih outline houtline _ start

end Outline

namespace Middleware

/-- What the trace notes of a call. -/
def traced (call : Call Middleware) : List Rendered :=
  match call.hook with
  | .transform text =>
    [⟨call.context.frame.printer, call.context.depth, call.context.state.size,
      call.context.state.level, text.utf8ByteSize⟩]
  | _ => []

theorem tracing : Recording hooks .trace (· = .indent) Journal.rendered traced where
  own := by
    intro call record later hown hrun
    rcases call with ⟨hook, middleware, context, installs⟩
    cases hown
    cases hook with
    | transform text =>
        cases hrun
        exact ⟨rfl, List.forall_mem_nil _⟩
    | _ =>
        cases hrun
        exact ⟨(List.append_nil _).symm, List.forall_mem_nil _⟩
  quiet := by
    intro call record later hother hrun
    rcases call with ⟨hook, middleware, context, installs⟩
    cases hother
    cases hook with
    | transform text =>
        rcases Effect.bind_cases hrun with ⟨indented, between, hindented, hpure⟩
        cases hpure
        rw [later_of_indent hindented]
        exact ⟨rfl, List.forall_mem_nil _⟩
    | _ =>
        cases hrun
        exact ⟨rfl, List.forall_mem_nil _⟩

-- Only rewriting a text is noted, so the notes belong to these rounds, one to each.
theorem forall₂_traced {related : Nat → Rendered → Prop} {rounds : List (Round Middleware)}
    {own : List (Call Middleware)}
    (h : List.Forall₂ (fun round call => call.hook.stage = round.stage ∧
      ∀ note ∈ traced call, related round.node note) rounds own) :
    List.Forall₂ related (Tree.rewritten (rounds.map Round.stop)) (own.flatMap traced) := by
  induction h with
  | nil => exact .nil
  | @cons round call rounds own hcall _ ih =>
      rcases hcall with ⟨hstage, hnotes⟩
      rw [List.map_cons, ← List.singleton_append, Tree.rewritten_append, List.flatMap_cons]
      rw [traced] at hnotes ⊢
      cases hhook : call.hook with
      | transform text =>
          rw [hhook] at hstage hnotes
          have hrewrites : round.stop.stage = .transform := hstage.symm
          rw [Tree.rewritten_singleton, if_pos hrewrites]
          exact .cons (hnotes _ (List.mem_singleton_self _)) ih
      | _ =>
          rw [hhook] at hstage
          have hother : round.stop.stage ≠ .transform := by
            change round.stage ≠ .transform
            rw [← hstage]
            exact Stage.noConfusion
          rw [Tree.rewritten_singleton, if_neg hother]
          exact ih

end Middleware

/-- A note of the printer in a slot: it has the kind of the printer, and its depth
    is the number of links from the slot up to the root. -/
def Arena.Tells (arena : Arena) (root id : Nat) (note : Rendered) : Prop :=
  note.kind = arena.kind? id ∧ ∃ way, arena.Climbs root id way ∧ note.depth + 1 = way.length

theorem Arena.traced_of_isFor {arena : Arena} (hbuilt : arena.Built) {top node : Tree}
    {above : List Tree} (htop : arena.Holds top) (hdescent : top.Descent (node :: above))
    {call : Call Middleware} (h : call.IsFor node above) :
    ∀ note ∈ Middleware.traced call, arena.Tells top.id node.id note := by
  intro note hnote
  rcases h with ⟨hbelow, hprinter⟩
  rcases climbs_of_descent hbuilt htop hdescent with ⟨hholds, hclimbs, -⟩
  rw [Middleware.traced] at hnote
  cases hhook : call.hook with
  | transform text =>
      have hstage : (Hook.transform text).stage ≠ .child := Stage.noConfusion
      rw [hhook] at hnote hprinter
      rw [if_neg hstage] at hprinter
      rw [List.mem_singleton.mp hnote]
      refine ⟨hprinter.trans hholds.kind?.symm, _, hclimbs, ?_⟩
      rw [List.length_map, List.length_cons, hbelow.depth_eq]
  | _ =>
      rw [hhook] at hnote
      exact absurd hnote List.not_mem_nil

/-- What the trace notes in a round tells of the slot that the round is about. -/
theorem Arena.tells_of_mem_rounds {arena : Arena} (hbuilt : arena.Built) (root : Fin arena.size)
    {context : Context Middleware} (hroot : context.enclosing = []) {record : Journal} :
    ∀ round ∈ (arena.tree root).rounds Middleware.hooks [] context record,
      ∀ call ∈ round.calls, ∀ note ∈ Middleware.traced call, arena.Tells root round.node note := by
  intro round hround call hcall
  rcases holds_tree root with ⟨hholds, hid⟩
  have hbelow : context.Below [] := by
    rw [Context.Below, hroot]
    rfl
  rcases Tree.isFor_of_mem_rounds Middleware.hooks _ _ .top hbelow round hround with
    ⟨node, above, hdescent, hnode, hfor⟩
  rw [hnode, ← hid]
  exact traced_of_isFor hbuilt hholds hdescent (hfor call hcall)

section Overflow

/-- A frame of printing with the trace and with indentation, on which nothing is
    more than one level deep. -/
structure Context.Shallow (config : Config) (context : Context Middleware) : Prop where
  config_eq : context.config = config
  generator_eq : context.settings.generator = .standard
  size_eq : context.state.size = 0 ∨ context.state.size = 1
  known : ∀ middleware ∈ context.middlewares, middleware = .indent ∨ middleware = .trace

variable {config : Config} {root context : Context Middleware}

theorem Context.Shallow.apply_same (h : context.Shallow config) :
    (context.apply ⟨context.settings, []⟩).Shallow config where
  config_eq := h.config_eq
  generator_eq := h.generator_eq
  size_eq := h.size_eq
  known := by
    intro middleware hmem
    exact h.known middleware (by rwa [← List.append_nil context.middlewares])

-- The two middlewares change no frame, and children are asked for at level one at most.
theorem shallow_of_reachable (hroot : root.Shallow config)
    (h : Reachable Middleware.hooks root context) : context.Shallow config := by
  induction h with
  | root => exact hroot
  | enter kind _ ih => exact ⟨ih.config_eq, ih.generator_eq, ih.size_eq, ih.known⟩
  | configure _ hmem hrun ih =>
      rcases ih.known _ hmem with rfl | rfl
      · cases hrun
        exact ih.apply_same
      · cases hrun
        exact ih.apply_same
  | configureChild _ hmem hrun ih =>
      rcases ih.known _ hmem with rfl | rfl
      · cases hrun
        exact ih.apply_same
      · cases hrun
        exact ih.apply_same
  | child _ hasks hstate ih =>
      rw [ih.generator_eq] at hstate
      cases hasks with
      | deeper =>
          cases hstate
          exact ⟨ih.config_eq, ih.generator_eq, .inr rfl, ih.known⟩
      | _ =>
          cases hstate
          exact ⟨ih.config_eq, ih.generator_eq, ih.size_eq, ih.known⟩
  | adjust _ hasks ih =>
      cases hasks with
      | forced => exact ⟨ih.config_eq, ih.generator_eq, .inr rfl, ih.known⟩
      | _ => exact ⟨ih.config_eq, ih.generator_eq, ih.size_eq, ih.known⟩

/-- On a shallow frame the only lead that may not fit is that of one level. -/
theorem Context.Shallow.process_one (h : context.Shallow config) {cause : Overflow}
    (hcause : context.Miscounts cause) : config.indent.process 1 = .error cause := by
  rcases hcause with hlead | hone | ⟨rule, adjust, hasks, hstate⟩
  · rw [lead, h.config_eq] at hlead
    rcases h.size_eq with hsize | hsize
    · rw [hsize, Indent.process_zero] at hlead
      cases hlead
    · rwa [hsize] at hlead
  · rwa [h.config_eq] at hone
  · rw [h.generator_eq] at hstate
    cases hasks <;> cases hstate

end Overflow

namespace Outline

variable {outline : Outline}

/-- A trace of an outline: one note for every slot of its arena, in postorder with
    children in the order of their ids. -/
structure Traced (outline : Outline) (notes : List Rendered) : Prop where
  length_eq : notes.length = (Arena.ofOutline outline).size
  each_once : outline.tree.postorder.Perm (List.range (Arena.ofOutline outline).size)
  ascending : ∀ (id : Nat) (slot : Slot), (Arena.ofOutline outline).slots[id]? = some slot →
    slot.children.Pairwise (· < ·)
  in_order : List.Forall₂ ((Arena.ofOutline outline).Tells 0) outline.tree.postorder notes

/-- When printing with the trace is done, it has noted every printer once. -/
theorem traced_of_print (h : outline.Swept) {root : Context Middleware}
    (hroot : root.enclosing = []) {front back : List Middleware}
    (hmiddlewares : root.middlewares = front ++ .trace :: back)
    (hindents : ∀ middleware ∈ front ++ back, middleware = .indent) {text : String}
    {journal : Journal} (hprint : outline.print root = .ok (.ok text, journal)) :
    outline.Traced journal.rendered := by
  have hbuilt := Arena.built_ofOutline outline
  have hperm : outline.tree.postorder.Perm (List.range (Arena.ofOutline outline).size) := by
    rw [tree_eq_placed, Arena.size_ofOutline, List.range_eq_range']
    exact perm_postorder outline none 0
  have horderly : outline.tree.Orderly := by
    rw [tree_eq_placed]
    exact h.orderly none 0
  have hstops : (outline.tree.rounds Middleware.hooks [] root .empty).map Round.stop
      = outline.tree.traversal [] := Tree.visits_of_orderly Middleware.hooks horderly [] hprint
  rcases Middleware.tracing.exists_own_of_render hmiddlewares hindents hprint with
    ⟨own, hevents, hown⟩
  have hcalls : ∀ round ∈ outline.tree.rounds Middleware.hooks [] root .empty,
      ∀ call ∈ round.calls, call.hook.stage = round.stage ∧
        ∀ note ∈ Middleware.traced call, (Arena.ofOutline outline).Tells 0 round.node note := by
    intro round hround call hcall
    exact ⟨(Tree.inOrder_of_mem_rounds _ _ round hround).1.stage_eq call hcall,
      Arena.tells_of_mem_rounds hbuilt ⟨0, Arena.size_ofOutline_pos outline⟩ hroot round hround
        call hcall⟩
  -- The rounds are the stops of the traversal, and the notes go with those that rewrite.
  have hnotes := Middleware.forall₂_traced
    (((List.forall₂_and_left _ _).mpr ⟨hcalls, hown⟩).imp fun _ call h => h.1 call h.2.1)
  rw [hstops, Tree.rewritten_traversal] at hnotes
  have hrendered : journal.rendered = own.flatMap Middleware.traced := hevents
  rw [← hrendered] at hnotes
  refine ⟨?_, hperm, fun id slot hslot => hbuilt.children_ascending hslot, hnotes⟩
  rw [← hnotes.length_eq, hperm.length_eq, List.length_range]

/-- Printing from a root frame leaves a whole trace, or is given up because one
    level has no lead. -/
def LeavesTrace (outline : Outline) (root : Context Middleware) : Prop :=
  (∃ text journal, outline.print root = .ok (.ok text, journal) ∧
    outline.Traced journal.rendered) ∨
  ∃ cause, outline.print root = .error cause ∧ root.config.indent.process 1 = .error cause

/-- Printing with the trace, with or without indentation around it. -/
theorem leavesTrace_of_swept (h : outline.Swept) (config : Config) (before after : Nat) :
    outline.LeavesTrace (.initial config
      (List.replicate before .indent ++ .trace :: List.replicate after .indent)) := by
  let root := Context.initial config
    (List.replicate before Middleware.indent ++ .trace :: List.replicate after .indent)
  have hindents : ∀ middleware ∈ List.replicate before Middleware.indent
      ++ List.replicate after .indent, middleware = .indent := by
    intro middleware hmem
    rcases List.mem_append.mp hmem with hmem | hmem
    · exact List.eq_of_mem_replicate hmem
    · exact List.eq_of_mem_replicate hmem
  have hknown : ∀ middleware ∈ root.middlewares, middleware = .indent ∨ middleware = .trace :=
    (Watchers.around before after).known
  rcases unfailing_print h.fits root with ⟨text, journal, hprint⟩ | ⟨cause, hprint, hmiscounted⟩
  · exact .inl ⟨text, journal, hprint, traced_of_print h rfl rfl hindents hprint⟩
  · -- Some frame on the way asked for a lead that does not fit, and it is a shallow one.
    rcases hmiscounted with ⟨context, hreachable, hcause⟩
    have hshallow : root.Shallow config := ⟨rfl, rfl, .inl rfl, hknown⟩
    exact .inr ⟨cause, hprint, (shallow_of_reachable hshallow hreachable).process_one hcause⟩

end Outline

end Print

end ClassForge
