import ClassForge.Proofs.Print.Scopes
import ClassForge.Proofs.Print.Unfailing

/-!
# The Order of a Rendering

Most printers ask for each of their children once, in order. A tree of such
printers is rendered by one traversal, and the rounds of calls are its stops: a
frame is made, it is configured, the children have their turn, and the text is
rewritten. Which stops there are and in which order can be read off the tree,
whatever the hooks do to the frames.

A printer may also give up without asking for anything. The traversal is then
broken off there. What has been visited is a part of the whole traversal that
ends where the printer was configured, and none of the printers above it gets to
rewrite a text any more.

## Main definitions

* `Stop`, `Tree.traversal`: A place and a stage, and all of them in order.
* `Tree.Orderly`: Trees of printers that either ask for each child once or give
  up at once.
* `Tree.BrokenOff`: What has been visited if a printer gave up.

## Theorems

* `Layout.visits_of_sweeps`: Carrying out a plan that asks for each child once.
* `Tree.visits_of_orderly`: The stops of a rendering.
-/

namespace ClassForge

namespace Print

variable {σ μ α : Type}

/-- A frame of a printer at one of its stages. -/
structure Stop where
  place : List Step
  node : Nat
  stage : Stage
  deriving DecidableEq

/-- What a round is about. -/
def Round.stop (round : Round μ) : Stop := ⟨round.place, round.node, round.stage⟩

namespace Tree

mutual

/-- The stops of rendering a tree, each printer once: it is configured, its
    children follow in order, and its text is rewritten. -/
def traversal (place : List Step) : Tree → List Stop
  | .node id _ _ children =>
    ⟨place, id, .configure⟩ :: (traversals place 0 children ++ [⟨place, id, .transform⟩])

/-- The stops of rendering the children from `start` on. Before a child is
    rendered its frame is made. -/
def traversals (place : List Step) (start : Nat) : List Tree → List Stop
  | [] => []
  | child :: children =>
    ⟨place ++ [⟨start, start⟩], child.id, .child⟩ ::
      (child.traversal (place ++ [⟨start, start⟩]) ++ traversals place (start + 1) children)

end

theorem exists_step_of_mem_traversals {children : List Tree}
    (hchildren : ∀ child ∈ children, ∀ {place : List Step}, ∀ stop ∈ child.traversal place,
      ∃ way, stop.place = place ++ way) {place : List Step} {start : Nat} :
    ∀ stop ∈ traversals place start children,
      ∃ step way, start ≤ step.asked ∧ stop.place = place ++ step :: way := by
  induction children generalizing start with
  | nil => exact fun _ hmem => absurd hmem List.not_mem_nil
  | cons child children ih =>
      intro stop hmem
      rw [traversals] at hmem
      rcases List.mem_cons.mp hmem with rfl | hmem
      · exact ⟨⟨start, start⟩, [], Nat.le_refl _, rfl⟩
      rcases List.mem_append.mp hmem with hmem | hmem
      · rcases hchildren child List.mem_cons_self stop hmem with ⟨way, hway⟩
        refine ⟨⟨start, start⟩, way, Nat.le_refl _, ?_⟩
        rw [hway, List.append_assoc, List.singleton_append]
      · rcases ih (fun other hother => hchildren other (List.mem_cons_of_mem _ hother)) stop
          hmem with ⟨step, way, hle, hway⟩
        exact ⟨step, way, by omega, hway⟩

theorem exists_way_of_mem_traversal (tree : Tree) :
    ∀ {place : List Step}, ∀ stop ∈ tree.traversal place, ∃ way, stop.place = place ++ way := by
  induction tree using Tree.ind with
  | node id parentKind printer children ih =>
      intro place stop hmem
      rw [traversal] at hmem
      rcases List.mem_cons.mp hmem with rfl | hmem
      · exact ⟨[], (List.append_nil _).symm⟩
      rcases List.mem_append.mp hmem with hmem | hmem
      · rcases exists_step_of_mem_traversals ih stop hmem with ⟨step, way, -, hway⟩
        exact ⟨step :: way, hway⟩
      · rw [List.mem_singleton.mp hmem]
        exact ⟨[], (List.append_nil _).symm⟩

/-- The stops of a child are not on the way to those of a later one. -/
theorem not_prefix_of_later {child : Tree} {later : List Tree} {place : List Step} {start : Nat}
    {stop other : Stop}
    (hstop : stop ∈ ⟨place ++ [⟨start, start⟩], child.id, .child⟩ ::
      child.traversal (place ++ [⟨start, start⟩]))
    (hother : other ∈ traversals place (start + 1) later) : ¬ stop.place <+: other.place := by
  have hplace : ∃ way, stop.place = place ++ ⟨start, start⟩ :: way := by
    rcases List.mem_cons.mp hstop with rfl | hstop
    · exact ⟨[], rfl⟩
    · rcases child.exists_way_of_mem_traversal stop hstop with ⟨way, hway⟩
      refine ⟨way, ?_⟩
      rw [hway, List.append_assoc, List.singleton_append]
  rcases hplace with ⟨way, hway⟩
  rcases exists_step_of_mem_traversals (fun tree _ => tree.exists_way_of_mem_traversal) other hother
    with ⟨step, rest, hle, hrest⟩
  -- The two places part at the step below `place`.
  rw [hway, hrest, List.prefix_append_right_inj, List.cons_prefix_cons]
  rintro ⟨rfl, -⟩
  exact Nat.not_succ_le_self _ hle

/-- A printer that gives up at once, whatever it is shown. -/
def Refuses (tree : Tree) (error : PrintError) : Prop :=
  ∀ view, tree.printer.layout tree.scope view = .fail error

/-- The printers of a tree ask for each of their children once and in order, or
    give up at once. -/
inductive Orderly : Tree → Prop where
  | node {id : Nat} {parentKind : Option Kind} {printer : Printer} {children : List Tree}
      (hprinter : printer.Sweeps children.length ∨
        ∃ error, (node id parentKind printer children).Refuses error)
      (hchildren : ∀ child ∈ children, child.Orderly) :
      Orderly (node id parentKind printer children)

/-- A traversal was broken off where a printer of the tree gave up. The last stop
    is the one at which the printer was configured, and the text of no printer
    above it was rewritten. -/
def BrokenOff (tree : Tree) (place : List Step) (whole visited : List Stop)
    (error : PrintError) : Prop :=
  ∃ before way failing after,
    whole = before ++ ⟨place ++ way, failing.id, .configure⟩ :: after ∧
    visited = before ++ [⟨place ++ way, failing.id, .configure⟩] ∧
    tree.at? (way.map Step.index) = some failing ∧ failing.Refuses error ∧
    ∀ stop ∈ before, stop.stage = .transform → ¬ stop.place <+: place ++ way

namespace BrokenOff

variable {tree : Tree} {place : List Step} {whole visited : List Stop} {error : PrintError}

theorem of_child {child : Tree} {index : Nat} (hchild : tree.children[index]? = some child)
    (h : child.BrokenOff (place ++ [⟨index, index⟩]) whole visited error) :
    tree.BrokenOff place whole visited error := by
  rcases h with ⟨before, way, failing, after, hwhole, hvisited, hfailing, hrefuses, hopen⟩
  rw [List.append_assoc, List.singleton_append] at hwhole hvisited hopen
  refine ⟨before, ⟨index, index⟩ :: way, failing, after, hwhole, hvisited, ?_, hrefuses, hopen⟩
  rw [List.map_cons, at?, hchild, Option.bind_some, hfailing]

theorem append_right (h : tree.BrokenOff place whole visited error) (more : List Stop) :
    tree.BrokenOff place (whole ++ more) visited error := by
  rcases h with ⟨before, way, failing, after, hwhole, hrest⟩
  refine ⟨before, way, failing, after ++ more, ?_, hrest⟩
  rw [hwhole, List.append_assoc, List.cons_append]

/-- Stops in front of all that do not end what is still open. -/
theorem append_left (front : List Stop)
    (hfront : ∀ stop ∈ front, stop.stage = .transform → ∀ other ∈ whole,
      ¬ stop.place <+: other.place)
    (h : tree.BrokenOff place whole visited error) :
    tree.BrokenOff place (front ++ whole) (front ++ visited) error := by
  rcases h with ⟨before, way, failing, after, hwhole, hvisited, hfailing, hrefuses, hopen⟩
  refine ⟨front ++ before, way, failing, after, ?_, ?_, hfailing, hrefuses, ?_⟩
  · rw [hwhole, List.append_assoc]
  · rw [hvisited, List.append_assoc]
  · refine List.forall_mem_append.mpr ⟨fun stop hmem hstage => ?_, hopen⟩
    refine hfront stop hmem hstage ⟨place ++ way, failing.id, .configure⟩ ?_
    rw [hwhole]
    exact List.mem_append_right _ List.mem_cons_self

theorem cons {stop : Stop} (hstage : stop.stage ≠ .transform)
    (h : tree.BrokenOff place whole visited error) :
    tree.BrokenOff place (stop :: whole) (stop :: visited) error := by
  refine h.append_left [stop] (List.forall_mem_singleton.mpr ?_)
  exact fun htransform => absurd htransform hstage

end BrokenOff

/-- What has been visited of a traversal, according to how the rendering ended. -/
def Visits (tree : Tree) (place : List Step) (whole : List Stop) :
    Except PrintError α → List Stop → Prop
  | .ok _, visited => visited = whole
  | .error error, visited => tree.BrokenOff place whole visited error

theorem Visits.append_left {tree : Tree} {place : List Step} {whole visited : List Stop}
    {outcome : Except PrintError α} (front : List Stop)
    (hfront : ∀ stop ∈ front, stop.stage = .transform → ∀ other ∈ whole,
      ¬ stop.place <+: other.place)
    (h : tree.Visits place whole outcome visited) :
    tree.Visits place (front ++ whole) outcome (front ++ visited) := by
  cases outcome with
  | ok value => exact congrArg (front ++ ·) h
  | error error => exact BrokenOff.append_left front hfront h

end Tree

section Rendering

variable {hooks : Hooks σ μ} {kind : Kind} {context : Context μ} {record later : σ}

/-- The stops of carrying out a plan that asks for each child once. -/
theorem Layout.visits_of_sweeps (tree : Tree) (place : List Step) {indent : Indent}
    {layout : Layout α} {start : Nat} {outcome : Except PrintError α}
    (hlayout : layout.Sweeps indent tree.children.length start)
    (hchildren : ∀ child ∈ tree.children, ∀ place {context record outcome later},
      (child.render hooks context).run.run record = .ok (outcome, later) →
      child.Visits place (child.traversal place) outcome
        ((child.rounds hooks place context record).map Round.stop))
    (h : (layout.run hooks kind (Tree.renderers hooks tree.children) context).run.run record
      = .ok (outcome, later)) :
    tree.Visits place (Tree.traversals place start (tree.children.drop start)) outcome
      ((layout.rounds hooks kind (Tree.renderers hooks tree.children)
        (Tree.reporters hooks tree.children) place context start record).map Round.stop) := by
  induction hlayout generalizing record with
  | done value =>
      cases h
      rw [List.drop_length]
      rfl
  | overflow hlead => cases h
  | @ask start rule adjust next hstart hasks hfail hnext ih =>
      have hlookup : tree.children[start]? = some tree.children[start] :=
        List.getElem?_eq_getElem hstart
      rcases Layout.ask_cases h with ⟨answer, between, hanswer, hrest⟩
      rcases askRounds_cases hanswer (place ++ [⟨start, start⟩]) with
        ⟨child, state, made, middle, hchild, -, hrendered, hrounds⟩ | ⟨hnone, -⟩
      · have hsame : tree.children[start] = child := Option.some.inj (hlookup.symm.trans hchild)
        have hvisits := hchildren child (List.mem_of_getElem? hchild) (place ++ [⟨start, start⟩])
          hrendered
        rw [List.drop_eq_getElem_cons hstart, hsame, Tree.traversals, Layout.rounds, hanswer,
          hrounds, List.map_append, List.map_cons]
        cases answer with
        | error error =>
            -- The failure is passed on, and nothing more is asked for.
            simp only [hfail] at hrest ⊢
            cases hrest
            rw [Layout.rounds, List.map_nil, List.append_nil]
            exact (((Tree.BrokenOff.of_child hchild hvisits).append_right _).cons Stage.noConfusion)
        | ok text =>
            -- The child has had its whole turn.
            simp only
            have hstops : (child.rounds hooks (place ++ [⟨start, start⟩]) (made.adjust adjust)
                middle).map Round.stop = child.traversal (place ++ [⟨start, start⟩]) := hvisits
            rw [hstops]
            refine Tree.Visits.append_left (_ :: child.traversal _) ?_ (ih text hrest)
            intro stop hstop _ other hother
            exact Tree.not_prefix_of_later hstop hother
      · rw [hlookup] at hnone
        cases hnone

/-- The rounds of rendering an orderly tree are the stops of its traversal, all of
    them or up to where a printer gave up. -/
theorem Tree.visits_of_orderly (hooks : Hooks σ μ) {tree : Tree} (h : tree.Orderly) :
    ∀ place {context record outcome later},
      (tree.render hooks context).run.run record = .ok (outcome, later) →
      tree.Visits place (tree.traversal place) outcome
        ((tree.rounds hooks place context record).map Round.stop) := by
  induction h with
  | @node id parentKind printer children hprinter _ ih =>
      intro place context record outcome later hrun
      rw [Tree.render] at hrun
      rcases Printer.render_cases hrun with ⟨frame, between, hframe, hrest⟩
      rw [Tree.rounds, Printer.rounds, hframe, Tree.traversal, List.map_cons]
      simp only
      rw [List.map_append]
      rcases hprinter with hsweeps | ⟨error, hrefuses⟩
      · have hlayout := hsweeps (Tree.scope (.node id parentKind printer children)) frame.view
          (List.length_map _)
        rcases hrest with ⟨error, hfailed, rfl⟩ | ⟨text, last, final, htext, -, rfl⟩
        · have hvisits := Layout.visits_of_sweeps (.node id parentKind printer children) place
            hlayout ih hfailed
          simp only [hfailed, List.map_nil, List.append_nil]
          exact (Tree.BrokenOff.append_right hvisits _).cons Stage.noConfusion
        · have hvisits := Layout.visits_of_sweeps (.node id parentKind printer children) place
            hlayout ih htext
          simp only [htext]
          exact congrArg (fun inner => _ :: (inner ++ [_])) hvisits
      · have hlayout : printer.layout (Tree.scope (.node id parentKind printer children)) frame.view
            = .fail error := hrefuses frame.view
        rw [hlayout] at hrest ⊢
        rcases hrest with ⟨other, hfailed, rfl⟩ | ⟨text, last, final, htext, -⟩
        · cases hfailed
          -- The printer is the one that gave up, and nothing has been asked for.
          exact ⟨[], [], _, _, by rw [List.append_nil]; rfl, by rw [List.append_nil]; rfl, rfl,
            hrefuses, fun _ hmem => absurd hmem List.not_mem_nil⟩
        · cases htext

end Rendering

end Print

end ClassForge
