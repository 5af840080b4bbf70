import ClassForge.Proofs.Print.Traversal

/-!
# Recorders

A recorder is a middleware that writes down its own calls, among others that do
whatever they like to frames and texts but leave its notes alone. Since everyone
takes part in every round of a rendering, and the recorder is on the list of every
frame exactly once, its notes tell the rounds one by one. So the notes of a
recorder follow the traversal of the tree, to the end or up to the printer that
gave up.

## Main definitions

* `Recording`: A recorder among middlewares that leave its notes alone.
* `Tree.Plain`: Trees of fixed texts and of the printers of no grammar.
* `Middleware.noted`, `Middleware.Unlike`: The notes of a recorder of the library,
  and the middlewares that never record under its name.

## Theorems

* `Recording.exists_own`: A recorder notes every round once.
* `Tree.Plain.orderly`: Plain trees are rendered by one traversal.
* `recorder_follows_traversal`: What a recorder notes of a plain tree.
-/

namespace ClassForge

namespace Print

variable {σ μ ε : Type}

/-- A recorder that notes its own calls, beside others that leave its notes alone.
    Nobody installs the recorder once more. -/
structure Recording (hooks : Hooks σ μ) (recorder : μ) (others : μ → Prop)
    (events : σ → List ε) (note : Call μ → List ε) : Prop where
  own : ∀ {call : Call μ} {record later : σ}, call.middleware = recorder →
    (call.effect hooks).run record = .ok (call.installs, later) →
    events later = events record ++ note call ∧ ∀ middleware ∈ call.installs, others middleware
  quiet : ∀ {call : Call μ} {record later : σ}, others call.middleware →
    (call.effect hooks).run record = .ok (call.installs, later) →
    events later = events record ∧ ∀ middleware ∈ call.installs, others middleware

namespace Performed

variable {hooks : Hooks σ μ} {calls first second : List (Call μ)} {record later : σ}

theorem of_append (h : Performed hooks (first ++ second) record later) :
    ∃ between, Performed hooks first record between ∧ Performed hooks second between later := by
  induction first generalizing record with
  | nil => exact ⟨record, .nil record, h⟩
  | cons call first ih =>
      cases h with
      | cons hcall hrest =>
          rcases ih hrest with ⟨between, hfirst, hsecond⟩
          exact ⟨between, .cons hcall hfirst, hsecond⟩

theorem exists_run_of_mem (h : Performed hooks calls record later) {call : Call μ}
    (hmem : call ∈ calls) :
    ∃ before after, (call.effect hooks).run before = .ok (call.installs, after) := by
  induction h with
  | nil record => exact absurd hmem List.not_mem_nil
  | cons hcall _ ih =>
      rcases List.mem_cons.mp hmem with rfl | hmem
      · exact ⟨_, _, hcall⟩
      · exact ih hmem

end Performed

section Rosters

/-- Middlewares that are known only install others that are known. -/
def Hooks.Keeps (hooks : Hooks σ μ) (known : μ → Prop) : Prop :=
  ∀ (call : Call μ) (record later : σ), known call.middleware →
    (call.effect hooks).run record = .ok (call.installs, later) →
    ∀ middleware ∈ call.installs, known middleware

variable {hooks : Hooks σ μ} {known : μ → Prop}

theorem Context.known_shownTo (hkeeps : hooks.Keeps known) (hook : Hook)
    {change : μ → Context μ → Effect σ (Change μ)} {first last : Context μ} {middlewares : List μ}
    {record later : σ}
    (heffect : ∀ middleware frame installs, Call.effect hooks ⟨hook, middleware, frame, installs⟩
      = do return (← change middleware frame).install)
    (hcalled : ∀ middleware ∈ middlewares, known middleware)
    (hfirst : ∀ middleware ∈ first.middlewares, known middleware)
    (h : (first.shownTo change middlewares).run record = .ok (last, later)) :
    ∀ middleware ∈ last.middlewares, known middleware := by
  have hperformed := performed_frameCalls hooks hook heffect h
  rw [Context.middlewares_shownTo hook h]
  refine List.forall_mem_append.mpr ⟨hfirst, fun middleware hmem => ?_⟩
  rcases List.mem_flatMap.mp hmem with ⟨call, hcall, hinstalled⟩
  rcases hperformed.exists_run_of_mem hcall with ⟨before, after, hrun⟩
  have hcaller : call.middleware ∈ middlewares :=
    middleware_frameCalls.subset (List.mem_map_of_mem hcall)
  exact hkeeps call before after (hcalled _ hcaller) hrun middleware hinstalled

/-- In a rendering that starts with known middlewares, only known ones are ever
    due. -/
theorem Tree.known_of_mem_roster (hkeeps : hooks.Keeps known) (tree : Tree) :
    ∀ {place : List Step} {context : Context μ} {record : σ},
      (∀ middleware ∈ context.middlewares, known middleware) →
      ∀ round ∈ tree.rounds hooks place context record,
        ∀ middleware ∈ round.roster, known middleware := by
  induction tree using Tree.ind with
  | node id parentKind printer children ih =>
      intro place context record hcontext round hmem
      rcases Tree.rounds_cases hmem with rfl | ⟨frame, between, hframe, hround⟩
      · exact hcontext
      -- A frame grows twice, when it is configured and before that when it is made.
      have hframed : ∀ middleware ∈ frame.middlewares, known middleware := by
        have hentered : ∀ middleware ∈ (context.enter printer.kind).middlewares,
          known middleware := hcontext
        exact Context.known_shownTo hkeeps .configure (fun _ _ _ => rfl) hentered hentered hframe
      rcases hround with ⟨text, later, rfl⟩ |
        ⟨step, rule, adjust, before, child, state, hfound, -, rfl | ⟨made, later, hmade, hmem⟩⟩
      · exact hframed
      · exact hframed
      · have hbelow : ∀ middleware ∈ (frame.below state).middlewares, known middleware := hframed
        have hgrown : ∀ middleware ∈ made.middlewares, known middleware :=
          Context.known_shownTo hkeeps (.child rule) (fun _ _ _ => rfl) hframed hbelow hmade
        have hadjusted : ∀ middleware ∈ (made.adjust adjust).middlewares, known middleware := hgrown
        exact ih child (List.mem_of_getElem? hfound) hadjusted round hmem

end Rosters

namespace Recording

variable {hooks : Hooks σ μ} {recorder : μ} {others : μ → Prop} {events : σ → List ε}
  {note : Call μ → List ε} {calls : List (Call μ)} {record later : σ}

/-- Whoever is there, the recorder or one of the others, installs others. -/
theorem installs_others (h : Recording hooks recorder others events note) {call : Call μ}
    (hcaller : call.middleware = recorder ∨ others call.middleware)
    (hrun : (call.effect hooks).run record = .ok (call.installs, later)) :
    ∀ middleware ∈ call.installs, others middleware := by
  rcases hcaller with hown | hother
  · exact (h.own hown hrun).2
  · exact (h.quiet hother hrun).2

theorem events_of_quiet (h : Recording hooks recorder others events note)
    (hperformed : Performed hooks calls record later)
    (hquiet : ∀ call ∈ calls, others call.middleware) : events later = events record := by
  induction hperformed with
  | nil record => rfl
  | cons hcall _ ih =>
      have hfirst := (h.quiet (hquiet _ List.mem_cons_self) hcall).1
      rw [ih fun call hmem => hquiet call (List.mem_cons_of_mem _ hmem), hfirst]

/-- In a round that the recorder is due in once, it makes one note. -/
theorem exists_own_of_round (h : Recording hooks recorder others events note)
    (hperformed : Performed hooks calls record later) {front back : List μ}
    (hmap : calls.map Call.middleware = front ++ recorder :: back)
    (hothers : ∀ middleware ∈ front ++ back, others middleware) :
    ∃ call ∈ calls, call.middleware = recorder ∧ events later = events record ++ note call := by
  rcases List.map_eq_append_iff.mp hmap with ⟨before, rest, rfl, hbefore, hrest⟩
  rcases List.map_eq_cons_iff.mp hrest with ⟨call, after, rfl, hcall, hafter⟩
  rcases hperformed.of_append with ⟨between, hfirst, hsecond⟩
  -- Those in front of the recorder and those behind it leave its notes alone.
  cases hsecond with
  | cons hrun hlast =>
      refine ⟨call, List.mem_append_right _ List.mem_cons_self, hcall, ?_⟩
      rw [← hbefore, ← hafter] at hothers
      rcases List.forall_mem_append.mp hothers with ⟨hquiet, hquiet'⟩
      rw [h.events_of_quiet hlast (List.forall_mem_map.mp hquiet'), (h.own hcall hrun).1,
        h.events_of_quiet hfirst (List.forall_mem_map.mp hquiet)]

/-- In rounds that the recorder is due in once each, it makes one note in each of
    them. -/
theorem exists_own (h : Recording hooks recorder others events note) {rounds : List (Round μ)}
    (hconcluded : Concluded hooks rounds record later)
    (hrosters : ∀ round ∈ rounds, ∃ front back, round.roster = front ++ recorder :: back ∧
      ∀ middleware ∈ front ++ back, others middleware) :
    ∃ own : List (Call μ), events later = events record ++ own.flatMap note ∧
      List.Forall₂ (fun round call => call ∈ round.calls ∧ call.middleware = recorder)
        rounds own := by
  rcases hconcluded with ⟨hperformed, hcomplete⟩
  induction rounds generalizing record with
  | nil =>
      cases hperformed
      exact ⟨[], (List.append_nil _).symm, .nil⟩
  | cons round rounds ih =>
      rw [List.flatMap_cons] at hperformed
      rcases hperformed.of_append with ⟨between, hfirst, hrest⟩
      rcases List.forall_mem_cons.mp hcomplete with ⟨hmap, hcomplete⟩
      rcases List.forall_mem_cons.mp hrosters with ⟨⟨front, back, hroster, hothers⟩, hrosters⟩
      rcases h.exists_own_of_round hfirst (hmap.trans hroster) hothers with
        ⟨call, hmem, hcall, hnoted⟩
      rcases ih hrosters hrest hcomplete with ⟨own, hevents, hown⟩
      refine ⟨call :: own, ?_, .cons ⟨hmem, hcall⟩ hown⟩
      rw [hevents, hnoted, List.flatMap_cons, List.append_assoc]

theorem keeps (h : Recording hooks recorder others events note) :
    hooks.Keeps fun middleware => middleware = recorder ∨ others middleware :=
  fun _ _ _ hcaller hrun middleware hmem => .inr (h.installs_others hcaller hrun middleware hmem)

/-- In rounds in which only the recorder and others are due, nobody but others is
    installed. -/
theorem others_of_mem_installedFor (h : Recording hooks recorder others events note)
    {rounds : List (Round μ)} (hconcluded : Concluded hooks rounds record later)
    (hknown : ∀ round ∈ rounds, ∀ middleware ∈ round.roster,
      middleware = recorder ∨ others middleware) (round : Round μ) :
    ∀ middleware ∈ installedFor rounds round, others middleware := by
  intro middleware hmem
  rcases List.mem_flatMap.mp hmem with ⟨earlier, hcovering, hinstalls⟩
  rcases List.mem_flatMap.mp hinstalls with ⟨call, hcall, hmem⟩
  have hearlier := (List.mem_filter.mp hcovering).1
  have hdue : call.middleware ∈ earlier.roster := by
    rw [← hconcluded.complete earlier hearlier]
    exact List.mem_map_of_mem hcall
  rcases hconcluded.performed.exists_run_of_mem
    (List.mem_flatMap.mpr ⟨earlier, hearlier, hcall⟩) with ⟨before, after, hrun⟩
  exact h.installs_others (hknown earlier hearlier _ hdue) hrun middleware hmem

/-- Of a rendering that came to an end, a recorder of the root frame notes every
    round once. -/
theorem exists_own_of_render (h : Recording hooks recorder others events note) {tree : Tree}
    {root : Context μ} {front back : List μ} (hroot : root.middlewares = front ++ recorder :: back)
    (hothers : ∀ middleware ∈ front ++ back, others middleware)
    {outcome : Except PrintError String}
    (hrun : (tree.render hooks root).run.run record = .ok (outcome, later)) :
    ∃ own : List (Call μ), events later = events record ++ own.flatMap note ∧
      List.Forall₂ (fun round call => call ∈ round.calls ∧ call.middleware = recorder)
        (tree.rounds hooks [] root record) own := by
  have hconcluded : Concluded hooks (tree.rounds hooks [] root record) record later :=
    tree.concluded_rounds hooks hrun
  have hknown : ∀ middleware ∈ root.middlewares, middleware = recorder ∨ others middleware := by
    intro middleware hmem
    rw [hroot] at hmem
    rcases List.mem_append.mp hmem with hmem | hmem
    · exact .inr (hothers middleware (List.mem_append_left _ hmem))
    · rcases List.mem_cons.mp hmem with rfl | hmem
      · exact .inl rfl
      · exact .inr (hothers middleware (List.mem_append_right _ hmem))
  -- What was installed on the way stands behind the root's own, and is never the recorder.
  refine h.exists_own hconcluded fun round hround =>
    ⟨front, back ++ installedFor (tree.rounds hooks [] root record) round, ?_, ?_⟩
  · rw [(tree.scoped_rounds hooks).roster_eq round hround, hroot, List.append_assoc,
      List.cons_append]
  · rw [← List.append_assoc]
    exact List.forall_mem_append.mpr ⟨hothers,
      h.others_of_mem_installedFor hconcluded (tree.known_of_mem_roster h.keeps hknown) round⟩

end Recording

namespace Tree

/-- A tree of fixed texts without children, and of printers that forward, join or
    line up what is below them. -/
inductive Plain : Tree → Prop where
  | text (id : Nat) (parentKind : Option Kind) (name content : String) :
      Plain (.node id parentKind (.text name content) [])
  | passThrough (id : Nat) (parentKind : Option Kind) {children : List Tree}
      (h : ∀ child ∈ children, Plain child) : Plain (.node id parentKind .passThrough children)
  | join (id : Nat) (parentKind : Option Kind) (combine : List String → String)
      {children : List Tree} (h : ∀ child ∈ children, Plain child) :
      Plain (.node id parentKind (.join combine) children)
  | sequence (id : Nat) (parentKind : Option Kind) {children : List Tree}
      (h : ∀ child ∈ children, Plain child) : Plain (.node id parentKind .sequence children)

/-- A forwarding printer gives up unless it has exactly one child. -/
theorem refuses_passThrough (id : Nat) (parentKind : Option Kind) {children : List Tree}
    (h : children.length ≠ 1) : (node id parentKind .passThrough children).Refuses
      (.childCount Kind.passThrough.name 1 children.length) := by
  intro view
  have hlength : (scope (.node id parentKind .passThrough children)).children.length
      = children.length := List.length_map _
  change (Scope.expect _ 1).bind _ = _
  rw [Scope.expect, hlength, if_neg h]
  rfl

theorem Plain.orderly {tree : Tree} (h : tree.Plain) : tree.Orderly := by
  induction h with
  | text id parentKind name content =>
      exact .node (.inl (Printer.sweeps_text name content))
        fun _ hmem => absurd hmem List.not_mem_nil
  | @passThrough id parentKind children _ ih =>
      -- The children are counted before any of them is asked for.
      by_cases hlength : children.length = 1
      · refine .node (.inl ?_) ih
        rw [hlength]
        exact Printer.combines_passThrough.sweeps
      · exact .node (.inr ⟨_, refuses_passThrough id parentKind hlength⟩) ih
  | join id parentKind combine _ ih => exact .node (.inl (Printer.combines_join _ _).sweeps) ih
  | sequence id parentKind _ ih => exact .node (.inl (Printer.combines_sequence _).sweeps) ih

theorem Plain.of_at? {tree node : Tree} {way : List Nat} (h : tree.Plain)
    (hnode : tree.at? way = some node) : node.Plain := by
  induction way generalizing tree with
  | nil =>
      cases hnode
      exact h
  | cons index way ih =>
      rw [at?] at hnode
      rcases Option.bind_eq_some_iff.mp hnode with ⟨child, hchild, hrest⟩
      have hmem := List.mem_of_getElem? hchild
      cases h with
      | text => exact absurd hmem List.not_mem_nil
      | passThrough _ _ h => exact ih (h child hmem) hrest
      | join _ _ _ h => exact ih (h child hmem) hrest
      | sequence _ _ h => exact ih (h child hmem) hrest

theorem not_refuses_of_sweeps {id : Nat} {parentKind : Option Kind} {printer : Printer}
    {children : List Tree} (h : printer.Sweeps children.length) (error : PrintError) :
    ¬ (node id parentKind printer children).Refuses error := by
  intro hrefuses
  have hlayout := h (scope (.node id parentKind printer children)) (Context.initial .standard [])
    (List.length_map _)
  rw [show printer.layout _ _ = .fail error from hrefuses _] at hlayout
  exact Layout.not_sweeps_fail hlayout

/-- In a plain tree only a forwarding printer gives up, if the number of its
    children is not one. -/
theorem Plain.of_refuses {tree : Tree} (h : tree.Plain) {error : PrintError}
    (hrefuses : tree.Refuses error) :
    tree.printer = .passThrough ∧ tree.children.length ≠ 1 ∧
      error = .childCount Kind.passThrough.name 1 tree.children.length := by
  cases h with
  | text id parentKind name content =>
      exact absurd hrefuses (not_refuses_of_sweeps (Printer.sweeps_text name content) error)
  | join id parentKind combine _ =>
      exact absurd hrefuses (not_refuses_of_sweeps (Printer.combines_join _ _).sweeps error)
  | sequence id parentKind _ =>
      exact absurd hrefuses (not_refuses_of_sweeps (Printer.combines_sequence _).sweeps error)
  | @passThrough id parentKind children _ =>
      have hlength : children.length ≠ 1 := by
        intro hone
        refine not_refuses_of_sweeps ?_ error hrefuses
        rw [hone]
        exact Printer.combines_passThrough.sweeps
      -- It gives up in one way only, whatever it is shown.
      have hsame := (hrefuses (Context.initial .standard [])).symm.trans
        (refuses_passThrough id parentKind hlength (Context.initial .standard []))
      exact ⟨rfl, hlength, Layout.fail.inj hsame⟩

end Tree

/-- A recorder among any other middlewares, on a plain tree. When printing
    succeeds, its notes are those of a whole traversal; when printing fails, they
    are those of a traversal that was broken off where the failing printer was
    configured. In every round everyone who is due is called once and in order. -/
theorem recorder_follows_traversal {hooks : Hooks σ μ} {recorder : μ} {others : μ → Prop}
    {events : σ → List ε} {note : Call μ → ε}
    (hrecording : Recording hooks recorder others events fun call => [note call])
    {tree : Tree} (hplain : tree.Plain) {root : Context μ} {front back : List μ}
    (hroot : root.middlewares = front ++ recorder :: back)
    (hothers : ∀ middleware ∈ front ++ back, others middleware) {record later : σ}
    {outcome : Except PrintError String}
    (hrun : (tree.render hooks root).run.run record = .ok (outcome, later)) :
    let rounds := tree.rounds hooks [] root record
    tree.Accounted hooks root record ∧
    (∀ round ∈ rounds, round.InOrder ∧ round.calls.map Call.middleware = round.roster) ∧
    (∃ own : List (Call μ), events later = events record ++ own.map note ∧
      List.Forall₂ (fun round call => call ∈ round.calls ∧ call.middleware = recorder)
        rounds own) ∧
    match outcome with
    | .ok _ => rounds.map Round.stop = tree.traversal []
    | .error error => tree.BrokenOff [] (tree.traversal []) (rounds.map Round.stop) error ∧
      ∃ count, count ≠ 1 ∧ error = .childCount Kind.passThrough.name 1 count := by
  intro rounds
  have hconcluded : Concluded hooks rounds record later := tree.concluded_rounds hooks hrun
  have hvisits := Tree.visits_of_orderly hooks hplain.orderly [] hrun
  refine ⟨tree.accounted hooks root record, fun round hround => ?_, ?_, ?_⟩
  · exact ⟨(tree.inOrder_of_mem_rounds hooks round hround).1, hconcluded.complete round hround⟩
  · rcases hrecording.exists_own_of_render hroot hothers hrun with ⟨own, hevents, hown⟩
    rw [← List.map_eq_flatMap] at hevents
    exact ⟨own, hevents, hown⟩
  · cases outcome with
    | ok text => exact hvisits
    | error error =>
        have hbroken : tree.BrokenOff [] (tree.traversal []) (rounds.map Round.stop) error :=
          hvisits
        refine ⟨hbroken, ?_⟩
        rcases hbroken with ⟨before, way, failing, after, -, -, hfailing, hrefuses, -⟩
        have hforwarding := (hplain.of_at? hfailing).of_refuses hrefuses
        exact ⟨failing.children.length, hforwarding.2⟩

namespace Middleware

/-- What a recorder of the library notes of a call. -/
def noted (name : String) (call : Call Middleware) : Event :=
  match call.hook with
  | .child rule => event name (.child rule) call.context
  | .configure => event name (.configure call.context.stack) call.context
  | .transform text => event name (.transform text) call.context

/-- A middleware that neither records under a name nor installs one that does. -/
def Unlike (name : String) : Middleware → Prop
  | .record other => other ≠ name
  | .install middleware _ | .installChild middleware _ => Unlike name middleware
  | _ => True

/-- The events that were recorded under a name. -/
def eventsOf (name : String) (journal : Journal) : List Event :=
  journal.events.filter fun event => event.name = name

theorem eventsOf_record_own {name : String} {event : Event} (journal : Journal)
    (h : event.name = name) :
    eventsOf name (journal.record event) = eventsOf name journal ++ [event] := by
  rw [eventsOf, Journal.record, List.filter_append, List.filter_singleton, decide_eq_true h]
  rfl

theorem eventsOf_record_other {name : String} {event : Event} (journal : Journal)
    (h : event.name ≠ name) : eventsOf name (journal.record event) = eventsOf name journal := by
  rw [eventsOf, Journal.record, List.filter_append, List.filter_singleton, decide_eq_false h]
  exact List.append_nil _

theorem unlike_of_mem {name : String} {middleware installed : Middleware} {condition : Bool}
    (h : middleware.Unlike name) (hmem : installed ∈ if condition then [middleware] else []) :
    installed.Unlike name := by
  cases condition with
  | true => rwa [List.mem_singleton.mp hmem]
  | false => exact absurd hmem List.not_mem_nil

-- Indenting may overflow, but it records nothing.
theorem later_of_indent {context : Context Middleware} {text indented : String}
    {record later : Journal}
    (h : (hooks.transform .indent context text).run record = .ok (indented, later)) :
    later = record := by
  have hlift : (liftM (context.indentText text) : Effect Journal String).run record
      = .ok (indented, later) := h
  cases hresult : context.indentText text with
  | error cause =>
      rw [hresult] at hlift
      cases hlift
  | ok text =>
      rw [hresult] at hlift
      cases hlift
      rfl

/-- A recorder of the library, among middlewares that never record under its
    name. -/
theorem recording (name : String) :
    Recording hooks (.record name) (Unlike name) (eventsOf name) fun call => [noted name call] where
  own := by
    intro call record later hown hrun
    rcases call with ⟨hook, middleware, context, installs⟩
    cases hown
    cases hook <;> cases hrun <;> exact ⟨eventsOf_record_own record rfl, List.forall_mem_nil _⟩
  quiet := by
    intro call record later hother hrun
    rcases call with ⟨hook, middleware, context, installs⟩
    -- Other recorders write under other names, and an installer installs one of its like.
    cases hook with
    | child rule =>
        cases middleware with
        | record other =>
            cases hrun
            exact ⟨eventsOf_record_other record hother, List.forall_mem_nil _⟩
        | installChild middleware only =>
            cases hrun
            exact ⟨rfl, fun _ => unlike_of_mem hother⟩
        | _ =>
            cases hrun
            exact ⟨rfl, List.forall_mem_nil _⟩
    | configure =>
        cases middleware with
        | record other =>
            cases hrun
            exact ⟨eventsOf_record_other record hother, List.forall_mem_nil _⟩
        | install middleware kind =>
            have hinstalls : (Except.ok (if context.matchesKind kind then [middleware] else [],
                record) : Except Overflow (List Middleware × Journal)) = .ok (installs, later) :=
              hrun
            cases hinstalls
            exact ⟨rfl, fun _ => unlike_of_mem hother⟩
        | _ =>
            cases hrun
            exact ⟨rfl, List.forall_mem_nil _⟩
    | transform text =>
        cases middleware with
        | record other =>
            cases hrun
            exact ⟨eventsOf_record_other record hother, List.forall_mem_nil _⟩
        | indent =>
            rcases Effect.bind_cases hrun with ⟨indented, between, hindented, hpure⟩
            cases hpure
            rw [later_of_indent hindented]
            exact ⟨rfl, List.forall_mem_nil _⟩
        | _ =>
            cases hrun
            exact ⟨rfl, List.forall_mem_nil _⟩

end Middleware

/-- Statements of which the second forwards nothing: the first one is rendered, and
    the recorder is called nowhere behind the configuration of the second. -/
theorem recorder_follows_broken_traversal :
    let tree := Tree.node 0 none .sequence
      [.node 1 (some .statementSequence) (.text "Raw" "a") [],
        .node 2 (some .statementSequence) .passThrough []]
    let root := Context.initial .standard [.install .idle none, .record "log"]
    ∃ later,
      (tree.render Middleware.hooks root).run.run .empty
        = .ok (.error (.childCount "PassThrough" 1 0), later) ∧
      (tree.rounds Middleware.hooks [] root .empty).map (fun round => (round.node, round.stage))
        = [(0, .configure), (1, .child), (1, .configure), (1, .transform), (2, .child),
          (2, .configure)] ∧
      ∃ own : List (Call Middleware),
        Middleware.eventsOf "log" later = own.map (Middleware.noted "log") ∧
        List.Forall₂ (fun round call => call ∈ round.calls ∧ call.middleware = .record "log")
          (tree.rounds Middleware.hooks [] root .empty) own := by
  intro tree root
  obtain ⟨later, hrun⟩ : ∃ later, (tree.render Middleware.hooks root).run.run .empty
      = .ok (.error (.childCount "PassThrough" 1 0), later) := ⟨_, rfl⟩
  have hplain : tree.Plain :=
    .sequence 0 none (List.forall_mem_cons.mpr ⟨.text _ _ _ _,
      List.forall_mem_singleton.mpr (.passThrough _ _ (List.forall_mem_nil _))⟩)
  have hothers : ∀ middleware ∈ [Middleware.install .idle none] ++ [], middleware.Unlike "log" :=
    List.forall_mem_singleton.mpr trivial
  have hroot : root.middlewares = [.install .idle none] ++ [.record "log"] := rfl
  have hfollows := recorder_follows_traversal (Middleware.recording "log") hplain hroot hothers hrun
  exact ⟨later, hrun, by decide +kernel, hfollows.2.2.1⟩

end Print

end ClassForge
