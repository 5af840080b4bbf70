import ClassForge.Proofs.Print.Recording

/-!
# Where a Rendering Fails

A forwarding printer gives up unless it has exactly one child. Of the printers
that belong to no grammar it is the only one that ever gives up, and it does so
before it has asked for anything. So in a tree of such printers it can be told in
advance whether a rendering fails and where: at the first forwarding printer with
a wrong number of children, among those that are asked for at all. A fixed text
never asks for what is below it, and whatever is wrong there goes unnoticed.

Nothing of this mentions a frame. Hooks may change settings, install further
middlewares and rewrite every text, but they cannot answer for a printer that has
given up and cannot make one give up. The only other way in which they matter is
that they may overflow.

## Main definitions

* `Tree.Composed`: Trees of the printers of no grammar.
* `Tree.Exposes`, `Tree.exposed`: What can be reached without passing through a
  fixed text, as a relation and as a list in preorder.
* `Tree.Faulty`: A forwarding printer with a wrong number of children.
* `Tree.fault?`: The error of the first faulty printer.
* `Answers`: An outcome that is the error foreseen, or a value if there is none.

## Theorems

* `Tree.mem_exposed`: The list has what the relation says.
* `Layout.answers_of_sweeps`: A plan that asks for every child fails as the first
  of them that fails.
* `Tree.Composed.answers_render`: A rendering ends as the tree foresees.
* `failure_depends_on_tree_alone`: Whether and how printing fails.
-/

namespace ClassForge

namespace Print

variable {σ μ α β : Type}

namespace Tree

/-- A tree of fixed texts and of printers that forward, join or line up what is
    below them. What stands below a fixed text may be anything. -/
inductive Composed : Tree → Prop where
  | text (id : Nat) (parentKind : Option Kind) (name content : String) (children : List Tree) :
      Composed (.node id parentKind (.text name content) children)
  | passThrough (id : Nat) (parentKind : Option Kind) {children : List Tree}
      (h : ∀ child ∈ children, Composed child) :
      Composed (.node id parentKind .passThrough children)
  | join (id : Nat) (parentKind : Option Kind) (combine : List String → String)
      {children : List Tree} (h : ∀ child ∈ children, Composed child) :
      Composed (.node id parentKind (.join combine) children)
  | sequence (id : Nat) (parentKind : Option Kind) {children : List Tree}
      (h : ∀ child ∈ children, Composed child) : Composed (.node id parentKind .sequence children)

/-- Whether the printer at the top asks for what is below it. A fixed text, which is
    the text of a grammar node, does not. -/
def Open (tree : Tree) : Prop := ∀ name, tree.printer.kind ≠ .node name

/-- A tree at some depth of another that can be reached without passing through a
    fixed text. -/
inductive Exposes (top : Tree) : Tree → Prop where
  | top : Exposes top top
  | child {tree child : Tree} (h : Exposes top tree) (hopen : tree.Open)
      (hmem : child ∈ tree.children) : Exposes top child

mutual

/-- The trees that can be reached without passing through a fixed text, in
    preorder. -/
def exposed : Tree → List Tree
  | .node id parentKind printer children =>
    .node id parentKind printer children ::
      match printer.kind with
      | .node _ => []
      | _ => exposedAll children

/-- The same for several trees, one after the other. -/
def exposedAll : List Tree → List Tree
  | [] => []
  | tree :: trees => tree.exposed ++ exposedAll trees

end

/-- A forwarding printer that has another number of children than one. -/
def Faulty (tree : Tree) : Prop := tree.printer.kind = .passThrough ∧ tree.children.length ≠ 1

instance (tree : Tree) : Decidable tree.Faulty := inferInstanceAs (Decidable (_ ∧ _))

/-- The error of a forwarding printer that gives up. -/
def fault (tree : Tree) : PrintError :=
  .childCount Kind.passThrough.name 1 tree.children.length

/-- The error of the first faulty printer that can be reached. -/
def fault? (tree : Tree) : Option PrintError :=
  (tree.exposed.find? fun node => node.Faulty).map fault

theorem exposed_of_open {tree : Tree} (h : tree.Open) :
    tree.exposed = tree :: exposedAll tree.children := by
  rcases tree with ⟨id, parentKind, printer, children⟩
  rw [exposed]
  split
  · rename_i name hkind
    exact absurd hkind (h name)
  · rfl

theorem exposed_of_not_open {tree : Tree} (h : ¬ tree.Open) : tree.exposed = [tree] := by
  rcases tree with ⟨id, parentKind, printer, children⟩
  rw [exposed]
  split
  · rfl
  · rename_i hkind
    exact absurd (fun name heq => hkind name heq) h

theorem mem_exposedAll {trees : List Tree} {node : Tree} :
    node ∈ exposedAll trees ↔ ∃ tree ∈ trees, node ∈ tree.exposed := by
  induction trees with
  | nil => exact ⟨fun hmem => absurd hmem List.not_mem_nil,
      fun ⟨_, hmem, _⟩ => absurd hmem List.not_mem_nil⟩
  | cons tree trees ih => rw [exposedAll, List.mem_append, ih, List.exists_mem_cons_iff]

theorem Exposes.trans {top middle node : Tree} (h : top.Exposes middle)
    (hnode : middle.Exposes node) : top.Exposes node := by
  induction hnode with
  | top => exact h
  | child _ hopen hmem ih => exact .child ih hopen hmem

theorem exposes_of_mem_exposed (tree : Tree) : ∀ node ∈ tree.exposed, tree.Exposes node := by
  induction tree using Tree.ind with
  | node id parentKind printer children ih =>
      intro node hmem
      by_cases hopen : (Tree.node id parentKind printer children).Open
      · rw [exposed_of_open hopen] at hmem
        rcases List.mem_cons.mp hmem with rfl | hmem
        · exact .top
        · rcases mem_exposedAll.mp hmem with ⟨child, hchild, hnode⟩
          exact (Exposes.child .top hopen hchild).trans (ih child hchild node hnode)
      · rw [exposed_of_not_open hopen] at hmem
        rw [List.mem_singleton.mp hmem]
        exact .top

theorem mem_exposed_self (tree : Tree) : tree ∈ tree.exposed := by
  rcases tree with ⟨id, parentKind, printer, children⟩
  rw [exposed]
  exact List.mem_cons_self

/-- What is exposed by an exposed tree is exposed. -/
theorem exposed_subset {node : Tree} (tree : Tree) :
    node ∈ tree.exposed → ∀ other ∈ node.exposed, other ∈ tree.exposed := by
  induction tree using Tree.ind with
  | node id parentKind printer children ih =>
      intro hnode other hother
      by_cases hopen : (Tree.node id parentKind printer children).Open
      · rw [exposed_of_open hopen] at hnode
        rcases List.mem_cons.mp hnode with rfl | hnode
        · exact hother
        · rcases mem_exposedAll.mp hnode with ⟨child, hchild, hnode⟩
          rw [exposed_of_open hopen]
          exact List.mem_cons_of_mem _
            (mem_exposedAll.mpr ⟨child, hchild, ih child hchild hnode other hother⟩)
      · rw [exposed_of_not_open hopen] at hnode
        rwa [List.mem_singleton.mp hnode] at hother

theorem mem_exposed {tree node : Tree} : node ∈ tree.exposed ↔ tree.Exposes node := by
  refine ⟨exposes_of_mem_exposed tree node, fun h => ?_⟩
  induction h with
  | top => exact mem_exposed_self tree
  | @child node child _ hopen hmem ih =>
      refine exposed_subset tree ih child ?_
      rw [exposed_of_open hopen]
      exact List.mem_cons_of_mem _ (mem_exposedAll.mpr ⟨child, hmem, mem_exposed_self child⟩)

theorem find?_exposedAll (trees : List Tree) :
    ((exposedAll trees).find? fun node => node.Faulty).map fault = trees.findSome? fault? := by
  induction trees with
  | nil => rfl
  | cons tree trees ih =>
      rw [exposedAll, List.find?_append, List.findSome?_cons, fault?, ← ih]
      cases tree.exposed.find? fun node => node.Faulty <;> rfl

theorem fault?_of_faulty {tree : Tree} (h : tree.Faulty) : tree.fault? = some tree.fault := by
  have hopen : tree.Open := fun name hkind => Kind.noConfusion (h.1.symm.trans hkind)
  rw [fault?, exposed_of_open hopen, List.find?_cons_of_pos (by rwa [decide_eq_true_eq]),
    Option.map_some]

/-- A printer that asks for its children and is not at fault itself leaves it to
    them. -/
theorem fault?_of_open {tree : Tree} (hopen : tree.Open) (h : ¬ tree.Faulty) :
    tree.fault? = tree.children.findSome? fault? := by
  rw [fault?, exposed_of_open hopen, List.find?_cons_of_neg (by rwa [decide_eq_true_eq]),
    find?_exposedAll]

theorem fault?_of_not_open {tree : Tree} (h : ¬ tree.Open) : tree.fault? = none := by
  have hsound : ¬ tree.Faulty := fun hfaulty =>
    h fun name hkind => Kind.noConfusion (hfaulty.1.symm.trans hkind)
  rw [fault?, exposed_of_not_open h, List.find?_cons_of_neg (by rwa [decide_eq_true_eq])]
  rfl

end Tree

/-- An outcome is the error that was foreseen, or a value if none was. -/
def Answers (foreseen : Option PrintError) : Except PrintError α → Prop
  | .ok _ => foreseen = none
  | .error error => foreseen = some error

section Rendering

variable {hooks : Hooks σ μ} {root context : Context μ}

theorem Rendering.ends_after {raised : Overflow → Prop} {effect : Effect σ α} {post : α → Prop}
    (h : Effect.Ends raised post effect) {next : α → Rendering σ β}
    {after : Except PrintError β → Prop}
    (hnext : ∀ value, post value → Effect.Ends raised after (next value).run) :
    Effect.Ends raised after (liftM effect >>= next : Rendering σ β).run := by
  rw [Rendering.run_liftM_bind]
  exact h.bind hnext

/-- Carrying out a plan that asks for the children from `start` on: it ends with the
    first error that is foreseen of one of them. -/
theorem Layout.answers_of_sweeps (h : Reachable hooks root context) {trees : List Tree}
    (hchildren : ∀ child ∈ trees, ∀ frame, Reachable hooks root frame →
      Effect.Ends (Raised hooks root) (Answers child.fault?) (child.render hooks frame).run)
    (kind : Kind) {layout : Layout α} {start : Nat}
    (hlayout : layout.Sweeps context.config.indent trees.length start) :
    Effect.Ends (Raised hooks root) (Answers ((trees.drop start).findSome? Tree.fault?))
      (layout.run hooks kind (Tree.renderers hooks trees) context).run := by
  -- The plan asks in order, so at each of its questions the children before `start` have
  -- been found without fault.
  induction hlayout with
  | done value =>
      rw [List.drop_length]
      exact Effect.ends_pure rfl
  | overflow hlead =>
      refine ⟨fun hrun => (by cases hrun), fun hrun => ?_⟩
      cases hrun
      exact .level h hlead
  | @ask start rule adjust next hstart hasks hfail _ ih =>
      have hchild : Effect.Ends (Raised hooks root) (Answers trees[start].fault?)
          (renderChild hooks kind (Tree.renderers hooks trees) context start rule adjust).run := by
        rw [renderChild, Tree.renderers_eq_map, List.getElem?_map, List.getElem?_eq_getElem hstart,
          Option.map_some]
        exact Rendering.ends_after (ends_child h hasks) (hchildren _ (List.getElem_mem hstart))
      rw [List.drop_eq_getElem_cons hstart, List.findSome?_cons]
      refine Rendering.ends_after hchild fun answer hanswer => ?_
      cases answer with
      | error error =>
          -- The plan passes the error on, and nothing behind it matters.
          have hforeseen : trees[start].fault? = some error := hanswer
          rw [hforeseen, hfail]
          exact Effect.ends_pure rfl
      | ok text =>
          have hforeseen : trees[start].fault? = none := hanswer
          rw [hforeseen]
          exact ih text

/-- A printer ends as its plan does: hooks are called around the plan, and none of
    them gets to see an error. -/
theorem Printer.answers_render (h : Reachable hooks root context) {printer : Printer}
    {scope : Scope} {children : List (Renderer σ μ)} {foreseen : Option PrintError}
    (hlayout : ∀ frame, Reachable hooks root frame →
      Effect.Ends (Raised hooks root) (Answers foreseen)
        ((printer.layout scope frame.view).run hooks printer.kind children frame).run) :
    Effect.Ends (Raised hooks root) (Answers foreseen)
      (printer.render hooks scope children context).run := by
  refine Rendering.ends_after (ends_configure (h.enter printer.kind)) fun frame hframe => ?_
  rw [ExceptT.run_bind]
  refine (hlayout frame hframe).bind fun outcome houtcome => ?_
  cases outcome with
  | error error => exact Effect.ends_pure houtcome
  | ok text =>
      have hsettled : foreseen = none := houtcome
      change Effect.Ends _ _ (liftM (frame.transform hooks text) : Rendering σ String).run
      rw [← bind_pure (liftM (frame.transform hooks text) : Rendering σ String)]
      exact Rendering.ends_after (ends_transform hframe text)
        fun final _ => Effect.ends_pure hsettled

/-- A tree without faults of its own at the top ends as its children foresee. -/
theorem Tree.answers_of_sweeps (h : Reachable hooks root context) {id : Nat}
    {parentKind : Option Kind} {printer : Printer} {children : List Tree}
    (hchildren : ∀ child ∈ children, ∀ frame, Reachable hooks root frame →
      Effect.Ends (Raised hooks root) (Answers child.fault?) (child.render hooks frame).run)
    (hsweeps : printer.Sweeps children.length)
    (hopen : (Tree.node id parentKind printer children).Open)
    (hsound : ¬ (Tree.node id parentKind printer children).Faulty) :
    Effect.Ends (Raised hooks root) (Answers (Tree.node id parentKind printer children).fault?)
      ((Tree.node id parentKind printer children).render hooks context).run := by
  rw [Tree.fault?_of_open hopen hsound, Tree.render]
  refine Printer.answers_render h fun frame hframe => ?_
  exact Layout.answers_of_sweeps hframe hchildren printer.kind
    (hsweeps _ frame.view (List.length_map _))

theorem Tree.Composed.answers_render {tree : Tree} (hcomposed : tree.Composed) :
    ∀ frame, Reachable hooks root frame →
      Effect.Ends (Raised hooks root) (Answers tree.fault?) (tree.render hooks frame).run := by
  induction hcomposed with
  | text id parentKind name content children =>
      -- A text has no children to ask for, so it has nothing to give up.
      intro frame hframe
      have hshut : ¬ (Tree.node id parentKind (.text name content) children).Open :=
        fun hopen => hopen name rfl
      rw [Tree.fault?_of_not_open hshut, Tree.render]
      exact Printer.answers_render hframe fun _ _ => Effect.ends_pure rfl
  | @passThrough id parentKind children _ ih =>
      intro frame hframe
      by_cases hlength : children.length = 1
      · refine Tree.answers_of_sweeps hframe ih ?_ (fun _ => Kind.noConfusion)
          (fun hfaulty => hfaulty.2 hlength)
        rw [hlength]
        exact Printer.combines_passThrough.sweeps
      · -- It gives up before it asks for anything.
        have hfaulty : (Tree.node id parentKind .passThrough children).Faulty := ⟨rfl, hlength⟩
        rw [Tree.fault?_of_faulty hfaulty, Tree.render]
        refine Printer.answers_render hframe fun frame _ => ?_
        rw [show Printer.passThrough.layout _ frame.view = .fail _ from
          Tree.refuses_passThrough id parentKind hlength frame.view]
        exact Effect.ends_pure rfl
  | join id parentKind combine _ ih =>
      exact fun frame hframe => Tree.answers_of_sweeps hframe ih
        (Printer.combines_join _ _).sweeps (fun _ => Kind.noConfusion)
        (fun hfaulty => Kind.noConfusion hfaulty.1)
  | sequence id parentKind _ ih =>
      exact fun frame hframe => Tree.answers_of_sweeps hframe ih
        (Printer.combines_sequence _).sweeps (fun _ => Kind.noConfusion)
        (fun hfaulty => Kind.noConfusion hfaulty.1)

end Rendering

/-- What a faultless rendering and one with a fault come to, read off the outcome. -/
theorem Tree.fails_of_answers {tree : Tree} {outcome : Except PrintError String}
    (h : Answers tree.fault? outcome) :
    ((∃ error, outcome = .error error) ↔ ∃ node, tree.Exposes node ∧ node.Faulty) ∧
      ∀ before node after, tree.exposed = before ++ node :: after → node.Faulty →
        (∀ earlier ∈ before, ¬ earlier.Faulty) → outcome = .error node.fault := by
  have hfirst : ∀ before node after, tree.exposed = before ++ node :: after → node.Faulty →
      (∀ earlier ∈ before, ¬ earlier.Faulty) → outcome = .error node.fault := by
    intro before node after hsplit hfaulty hsound
    have hfind : tree.exposed.find? (fun node => node.Faulty) = some node := by
      rw [List.find?_eq_some_iff_append]
      refine ⟨decide_eq_true hfaulty, before, after, hsplit, fun earlier hmem => ?_⟩
      rw [decide_eq_false (hsound earlier hmem)]
      rfl
    have hforeseen : tree.fault? = some node.fault := by
      rw [fault?, hfind, Option.map_some]
    rw [hforeseen] at h
    cases outcome with
    | ok text => cases h
    | error error =>
        cases h
        rfl
  refine ⟨⟨?_, ?_⟩, hfirst⟩
  · rintro ⟨error, rfl⟩
    -- An error was foreseen, so some exposed printer is at fault.
    have hforeseen : tree.fault? = some error := h
    rcases Option.map_eq_some_iff.mp hforeseen with ⟨node, hfind, -⟩
    have hfaulty := List.find?_some hfind
    exact ⟨node, mem_exposed.mp (List.mem_of_find?_eq_some hfind), of_decide_eq_true hfaulty⟩
  · rintro ⟨node, hexposes, hfaulty⟩
    cases hfind : tree.exposed.find? fun node => node.Faulty with
    | none =>
        have hsound := List.find?_eq_none.mp hfind node (mem_exposed.mpr hexposes)
        exact absurd (decide_eq_true hfaulty) hsound
    | some first =>
        rcases List.find?_eq_some_iff_append.mp hfind with ⟨hfirst', before, after, hsplit, hsound⟩
        refine ⟨first.fault, hfirst before first after hsplit (of_decide_eq_true hfirst') ?_⟩
        intro earlier hmem hearlier
        have hnot := hsound earlier hmem
        rw [decide_eq_true hearlier] at hnot
        cases hnot

/-- Printing a composed tree fails if and only if a forwarding printer that is not
    below a fixed text has another number of children than one, and the error is that
    of the first such printer in preorder. That is so for all hooks, from every root
    frame and whatever has been recorded, unless a hook or a generator overflows; so
    any two renderings of the tree fail together and with the same error. -/
theorem failure_depends_on_tree_alone {tree : Tree} (hcomposed : tree.Composed) :
    (∀ node, node ∈ tree.exposed ↔ tree.Exposes node) ∧
    (∀ {σ μ : Type} (hooks : Hooks σ μ) (root : Context μ) (record : σ),
      match (tree.render hooks root).run.run record with
      | .error cause => Raised hooks root cause
      | .ok (outcome, _) =>
        ((∃ error, outcome = .error error) ↔ ∃ node, tree.Exposes node ∧ node.Faulty) ∧
        ∀ before node after, tree.exposed = before ++ node :: after → node.Faulty →
          (∀ earlier ∈ before, ¬ earlier.Faulty) →
          outcome = .error (.childCount "PassThrough" 1 node.children.length)) ∧
    ∀ {σ μ τ ν : Type} (hooks : Hooks σ μ) (others : Hooks τ ν) (root : Context μ)
      (other : Context ν) {record later : σ} {start finish : τ}
      {outcome another : Except PrintError String},
      (tree.render hooks root).run.run record = .ok (outcome, later) →
      (tree.render others other).run.run start = .ok (another, finish) →
      ∀ error, outcome = .error error ↔ another = .error error := by
  refine ⟨fun node => Tree.mem_exposed, fun hooks root record => ?_, ?_⟩
  · have hends := hcomposed.answers_render root (Reachable.root : Reachable hooks root root)
    split
    · rename_i cause hrun
      exact hends.overflow hrun
    · rename_i outcome later hrun
      exact Tree.fails_of_answers (hends.value hrun)
  · intro σ μ τ ν hooks others root other record later start finish outcome another hrun hother
      error
    have hroot : Reachable hooks root root := .root
    have hstart : Reachable others other other := .root
    have hone := (hcomposed.answers_render root hroot).value hrun
    have htwo := (hcomposed.answers_render other hstart).value hother
    -- Both outcomes answer the same tree.
    cases outcome with
    | ok text =>
        cases another with
        | ok text => exact ⟨fun h => (by cases h), fun h => (by cases h)⟩
        | error error =>
            cases (show tree.fault? = none from hone).symm.trans htwo
    | error first =>
        cases another with
        | ok text =>
            cases (show tree.fault? = some first from hone).symm.trans htwo
        | error second =>
            cases (show tree.fault? = some first from hone).symm.trans htwo
            exact Iff.rfl

/-- A sequence whose first fixed text hides a faulty printer, followed by two more
    that are not hidden: the second of the three is the one that is reported. -/
theorem failure_of_first_exposed :
    let tree := Tree.node 0 none .sequence
      [.node 1 (some .statementSequence) (.text "Raw" "a")
          [.node 2 (some (.node "Raw")) .passThrough []],
        .node 3 (some .statementSequence) .passThrough
          [.node 4 (some .passThrough) (.text "Raw" "b") [],
            .node 5 (some .passThrough) (.text "Raw" "c") []],
        .node 6 (some .statementSequence) .passThrough []]
    let root := Context.initial .standard [.setSize 3 none, .append "!" none, .indent]
    tree.exposed.map Tree.id = [0, 1, 3, 4, 5, 6] ∧
      ∃ journal, tree.print root = .ok (.error (.childCount "PassThrough" 1 2), journal) := by
  intro tree root
  have hcomposed : tree.Composed :=
    .sequence _ _ (List.forall_mem_cons.mpr ⟨.text _ _ _ _ _, List.forall_mem_cons.mpr
      ⟨.passThrough _ _ (List.forall_mem_cons.mpr ⟨.text _ _ _ _ _,
          List.forall_mem_singleton.mpr (.text _ _ _ _ _)⟩),
        List.forall_mem_singleton.mpr (.passThrough _ _ (List.forall_mem_nil _))⟩⟩)
  obtain ⟨outcome, journal, hprint⟩ : ∃ outcome journal, tree.print root = .ok (outcome, journal) :=
    ⟨_, _, rfl⟩
  have hrun : (tree.render Middleware.hooks root).run.run .empty = .ok (outcome, journal) := hprint
  have hfails := (failure_depends_on_tree_alone hcomposed).2.1 Middleware.hooks root .empty
  rw [hrun] at hfails
  refine ⟨rfl, journal, ?_⟩
  rw [hprint, hfails.2 [tree, .node 1 _ _ _] _ _ rfl (by decide) (by decide)]
  rfl

end Print

end ClassForge
