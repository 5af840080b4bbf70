import Mathlib.Data.List.Basic
import ClassForge.Print.Render

/-!
# Rounds of Calls

A rendering calls hooks and keeps quiet about it. What a hook records is all
that is left of a call, and a rendering that overflows leaves not even that. To
say when hooks are called, in which order, and what they are shown, this module
keeps the account that a rendering itself does not keep.

Hooks are called in rounds. A frame is gone through by one round when it is
made, by one when its printer is about to render against it, and by one when
the text is done. `Tree.rounds` lists them in the order in which they happen,
each with its place, the middlewares that are due and the calls that are made.
A place says which frame a round is about: it is the way down to it from the
root, one step for each child that was asked for. A printer that asks for a
child twice has it rendered against two frames, and these have different
places.

By `Tree.concluded_rounds` the account is right: the record that a rendering
ends with is the one that its calls leave behind, made one after the other.

## Main definitions

* `Call`: A call of a hook, with what the hook is shown.
* `Round`: The calls at one place and stage.
* `Performed`, `Concluded`: Making calls, and going through rounds, one after the
  other.
* `Tree.rounds`: The rounds of rendering a tree.
* `Tree.Every`: Trees whose printers are all of one kind.

## Theorems

* `Context.shownTo_cases`, `renderChild_cases`, `Layout.ask_cases`,
  `Printer.render_cases`: What happened in a rendering that came to an end.
* `Tree.concluded_rounds`: A rendering leaves behind what its rounds leave behind.
* `Tree.rounds_cases`: What the rounds of any rendering are.
-/

namespace ClassForge

namespace Print

variable {σ μ α β : Type}

/-- Which hook is called, with what only that hook is given. -/
inductive Hook where
  /-- For a child frame that was just made with this rule. -/
  | child (rule : Rule)
  /-- Before a printer renders against the frame. -/
  | configure
  /-- With the text that the printer made. -/
  | transform (text : String)

/-- A call of a hook: the middleware it belongs to, what it is shown, and the
    middlewares that it installs. -/
structure Call (μ : Type) where
  hook : Hook
  middleware : μ
  context : Context μ
  installs : List μ

namespace Call

/-- Making a call, for the sake of what it records and installs. -/
def effect (hooks : Hooks σ μ) (call : Call μ) : Effect σ (List μ) :=
  match call.hook with
  | .child rule => do return (← hooks.configureChild call.middleware rule call.context).install
  | .configure => do return (← hooks.configure call.middleware call.context).install
  | .transform text => do
    let _ ← hooks.transform call.middleware call.context text
    return []

end Call

/-- Making calls one after the other, each with the record that the one before
    it left. Every call installs what it says it installs. -/
inductive Performed (hooks : Hooks σ μ) : List (Call μ) → σ → σ → Prop where
  | nil (record : σ) : Performed hooks [] record record
  | cons {call : Call μ} {calls : List (Call μ)} {record between later : σ}
      (hcall : (call.effect hooks).run record = .ok (call.installs, between))
      (hrest : Performed hooks calls between later) :
      Performed hooks (call :: calls) record later

theorem Performed.append {hooks : Hooks σ μ} {first second : List (Call μ)}
    {record between later : σ} (hfirst : Performed hooks first record between)
    (hsecond : Performed hooks second between later) :
    Performed hooks (first ++ second) record later := by
  induction hfirst with
  | nil record => exact hsecond
  | cons hcall _ ih => exact .cons hcall (ih hsecond)

/-- The three stages in the life of a frame at which middlewares are called. -/
inductive Stage where
  | child
  | configure
  | transform
  deriving DecidableEq

/-- The stage at which a hook is called. -/
def Hook.stage : Hook → Stage
  | .child _ => .child
  | .configure => .configure
  | .transform _ => .transform

/-- A step down to a child: how many children had been asked for before, and
    which one is asked for. -/
structure Step where
  asked : Nat
  index : Nat
  deriving DecidableEq

/-- A round of calls. In a rendering that does not overflow everyone who is due
    is called; an overflow ends the round it happens in. -/
structure Round (μ : Type) where
  /-- The way down from the root to the frame that the round is about. -/
  place : List Step
  /-- The id of the printer that the frame is for. -/
  node : Nat
  stage : Stage
  /-- The middlewares that are due, in order. -/
  roster : List μ
  /-- The calls that are made, in order. -/
  calls : List (Call μ)

/-- The middlewares that a round puts on the frame, in order. -/
def Round.installs (round : Round μ) : List μ := round.calls.flatMap Call.installs

/-- Rounds that were gone through one after the other, each to its end. -/
structure Concluded (hooks : Hooks σ μ) (rounds : List (Round μ)) (record later : σ) : Prop where
  performed : Performed hooks (rounds.flatMap Round.calls) record later
  /-- Everyone who is due is called once, in order. -/
  complete : ∀ round ∈ rounds, round.calls.map Call.middleware = round.roster

namespace Concluded

variable {hooks : Hooks σ μ} {record between later : σ}

theorem nil (hooks : Hooks σ μ) (record : σ) : Concluded hooks [] record record :=
  ⟨.nil record, fun _ hmem => absurd hmem List.not_mem_nil⟩

theorem singleton {round : Round μ} (hperformed : Performed hooks round.calls record later)
    (hcomplete : round.calls.map Call.middleware = round.roster) :
    Concluded hooks [round] record later :=
  ⟨by rwa [List.flatMap_singleton], List.forall_mem_singleton.mpr hcomplete⟩

theorem append {first second : List (Round μ)} (hfirst : Concluded hooks first record between)
    (hsecond : Concluded hooks second between later) :
    Concluded hooks (first ++ second) record later where
  performed := by
    rw [List.flatMap_append]
    exact hfirst.performed.append hsecond.performed
  complete := List.forall_mem_append.mpr ⟨hfirst.complete, hsecond.complete⟩

end Concluded

section FrameRounds

/-- A frame after it was shown to middlewares in turn, each of which may change
    it. -/
def Context.shownTo (change : μ → Context μ → Effect σ (Change μ)) (middlewares : List μ)
    (first : Context μ) : Effect σ (Context μ) :=
  middlewares.foldlM (fun frame middleware => do return frame.apply (← change middleware frame))
    first

/-- The calls of a round that changes a frame, up to the first overflow. -/
def frameCalls (hook : Hook) (change : μ → Context μ → Effect σ (Change μ)) :
    List μ → Context μ → σ → List (Call μ)
  | [], _, _ => []
  | middleware :: middlewares, frame, record =>
    match (change middleware frame).run record with
    | .error _ => [⟨hook, middleware, frame, []⟩]
    | .ok (made, later) =>
      ⟨hook, middleware, frame, made.install⟩
        :: frameCalls hook change middlewares (frame.apply made) later

/-- The calls of a round that rewrites a text, up to the first overflow. -/
def textCalls (hooks : Hooks σ μ) (context : Context μ) :
    List μ → String → σ → List (Call μ)
  | [], _, _ => []
  | middleware :: middlewares, text, record =>
    ⟨.transform text, middleware, context, []⟩ ::
      match (hooks.transform middleware context text).run record with
      | .error _ => []
      | .ok (rewritten, later) => textCalls hooks context middlewares rewritten later

/-- A frame that came from another by calls of hooks. It stands at the same
    place of the chain, is for the same printer and has lost no middleware. -/
structure Context.Extends (first last : Context μ) : Prop where
  enclosing_eq : last.enclosing = first.enclosing
  printer_eq : last.frame.printer = first.frame.printer
  keeps : first.middlewares <+: last.middlewares

theorem Context.Extends.refl (context : Context μ) : context.Extends context :=
  ⟨rfl, rfl, List.prefix_refl _⟩

theorem Context.extends_apply (context : Context μ) (change : Change μ) :
    context.Extends (context.apply change) :=
  ⟨rfl, rfl, List.prefix_append _ _⟩

theorem Context.Extends.trans {first middle last : Context μ} (h : first.Extends middle)
    (hlast : middle.Extends last) : first.Extends last :=
  ⟨hlast.enclosing_eq.trans h.enclosing_eq, hlast.printer_eq.trans h.printer_eq,
    h.keeps.trans hlast.keeps⟩

/-- An effect that came to an end did so step by step. -/
theorem Effect.bind_cases {effect : Effect σ α} {next : α → Effect σ β} {record later : σ}
    {result : β} (h : (effect >>= next).run record = .ok (result, later)) :
    ∃ value between, effect.run record = .ok (value, between) ∧
      (next value).run between = .ok (result, later) := by
  rw [StateT.run_bind] at h
  cases hfirst : effect.run record with
  | error cause =>
      rw [hfirst] at h
      cases h
  | ok pair =>
      rw [hfirst] at h
      exact ⟨pair.1, pair.2, rfl, h⟩

variable {change : μ → Context μ → Effect σ (Change μ)} {hook : Hook} {middlewares : List μ}
  {first last : Context μ} {record later : σ}

theorem Context.shownTo_cases {middleware : μ}
    (h : (first.shownTo change (middleware :: middlewares)).run record = .ok (last, later)) :
    ∃ made between, (change middleware first).run record = .ok (made, between) ∧
      ((first.apply made).shownTo change middlewares).run between = .ok (last, later) := by
  rw [shownTo, List.foldlM_cons] at h
  rcases Effect.bind_cases h with ⟨next, between, hnext, hrest⟩
  rcases Effect.bind_cases hnext with ⟨made, middle, hmade, hpure⟩
  cases hpure
  exact ⟨made, between, hmade, hrest⟩

theorem frameCalls_cons {middleware : μ} {made : Change μ} {between : σ}
    (h : (change middleware first).run record = .ok (made, between)) :
    frameCalls hook change (middleware :: middlewares) first record
      = ⟨hook, middleware, first, made.install⟩
        :: frameCalls hook change middlewares (first.apply made) between := by
  rw [frameCalls, h]

theorem Context.extends_shownTo
    (h : (first.shownTo change middlewares).run record = .ok (last, later)) :
    first.Extends last := by
  induction middlewares generalizing first record with
  | nil =>
      cases h
      exact .refl _
  | cons middleware middlewares ih =>
      rcases shownTo_cases h with ⟨made, between, -, hrest⟩
      exact (first.extends_apply made).trans (ih hrest)

theorem of_mem_frameCalls {call : Call μ}
    (hmem : call ∈ frameCalls hook change middlewares first record) :
    call.hook = hook ∧ first.Extends call.context := by
  induction middlewares generalizing first record with
  | nil => exact absurd hmem List.not_mem_nil
  | cons middleware middlewares ih =>
      cases hrun : (change middleware first).run record with
      | error cause =>
          rw [frameCalls, hrun] at hmem
          rw [List.mem_singleton.mp hmem]
          exact ⟨rfl, .refl first⟩
      | ok pair =>
          rw [frameCalls_cons hrun] at hmem
          rcases List.mem_cons.mp hmem with rfl | hmem
          · exact ⟨rfl, .refl first⟩
          · rcases ih hmem with ⟨hhook, hextends⟩
            exact ⟨hhook, (first.extends_apply pair.1).trans hextends⟩

/-- A frame has the middlewares it had before the round, and behind them those
    that the calls of the round installed. -/
theorem Context.middlewares_shownTo (hook : Hook)
    (h : (first.shownTo change middlewares).run record = .ok (last, later)) :
    last.middlewares = first.middlewares
      ++ (frameCalls hook change middlewares first record).flatMap Call.installs := by
  induction middlewares generalizing first record with
  | nil =>
      cases h
      exact (List.append_nil _).symm
  | cons middleware middlewares ih =>
      rcases shownTo_cases h with ⟨made, between, hmade, hrest⟩
      rw [frameCalls_cons hmade, List.flatMap_cons, ih hrest, ← List.append_assoc]
      rfl

/-- Middlewares are called in order, and no one behind the first overflow. -/
theorem middleware_frameCalls :
    (frameCalls hook change middlewares first record).map Call.middleware <+: middlewares := by
  induction middlewares generalizing first record with
  | nil => exact List.prefix_refl []
  | cons middleware middlewares ih =>
      cases hrun : (change middleware first).run record with
      | error cause =>
          rw [frameCalls, hrun]
          exact (List.prefix_cons_inj _).mpr List.nil_prefix
      | ok pair =>
          rw [frameCalls_cons hrun, List.map_cons]
          exact (List.prefix_cons_inj _).mpr ih

theorem middleware_frameCalls_of_ok
    (h : (first.shownTo change middlewares).run record = .ok (last, later)) :
    (frameCalls hook change middlewares first record).map Call.middleware = middlewares := by
  induction middlewares generalizing first record with
  | nil => rfl
  | cons middleware middlewares ih =>
      rcases Context.shownTo_cases h with ⟨made, between, hmade, hrest⟩
      rw [frameCalls_cons hmade, List.map_cons, ih hrest]

theorem performed_frameCalls (hooks : Hooks σ μ) (hook : Hook)
    (heffect : ∀ middleware frame installs, Call.effect hooks ⟨hook, middleware, frame, installs⟩
      = do return (← change middleware frame).install)
    (h : (first.shownTo change middlewares).run record = .ok (last, later)) :
    Performed hooks (frameCalls hook change middlewares first record) record later := by
  induction middlewares generalizing first record with
  | nil =>
      cases h
      exact .nil _
  | cons middleware middlewares ih =>
      rcases Context.shownTo_cases h with ⟨made, between, hmade, hrest⟩
      rw [frameCalls_cons hmade]
      refine .cons ?_ (ih hrest)
      rw [heffect, StateT.run_bind, hmade]
      rfl

end FrameRounds

section TextRounds

variable {hooks : Hooks σ μ} {context : Context μ} {middlewares : List μ} {text final : String}
  {record later : σ}

/-- A text after middlewares have rewritten it in turn. -/
def Context.rewrittenBy (hooks : Hooks σ μ) (context : Context μ) (middlewares : List μ)
    (text : String) : Effect σ String :=
  middlewares.foldlM (fun text middleware => hooks.transform middleware context text) text

theorem of_mem_textCalls {call : Call μ}
    (hmem : call ∈ textCalls hooks context middlewares text record) :
    call.hook.stage = .transform ∧ call.context = context := by
  induction middlewares generalizing text record with
  | nil => exact absurd hmem List.not_mem_nil
  | cons middleware middlewares ih =>
      rw [textCalls] at hmem
      rcases List.mem_cons.mp hmem with rfl | hmem
      · exact ⟨rfl, rfl⟩
      · split at hmem
        · exact absurd hmem List.not_mem_nil
        · exact ih hmem

theorem middleware_textCalls :
    (textCalls hooks context middlewares text record).map Call.middleware <+: middlewares := by
  induction middlewares generalizing text record with
  | nil => exact List.prefix_refl []
  | cons middleware middlewares ih =>
      rw [textCalls, List.map_cons]
      refine (List.prefix_cons_inj _).mpr ?_
      split
      · exact List.nil_prefix
      · exact ih

theorem performed_textCalls
    (h : (context.rewrittenBy hooks middlewares text).run record = .ok (final, later)) :
    Performed hooks (textCalls hooks context middlewares text record) record later ∧
      (textCalls hooks context middlewares text record).map Call.middleware = middlewares := by
  induction middlewares generalizing text record with
  | nil =>
      cases h
      exact ⟨.nil _, rfl⟩
  | cons middleware middlewares ih =>
      rw [Context.rewrittenBy, List.foldlM_cons] at h
      rcases Effect.bind_cases h with ⟨rewritten, between, hfirst, hrest⟩
      rcases ih hrest with ⟨hperformed, hmap⟩
      rw [textCalls, hfirst]
      refine ⟨.cons ?_ hperformed, congrArg (middleware :: ·) hmap⟩
      rw [Call.effect, StateT.run_bind, hfirst]
      rfl

end TextRounds

/-- The rounds of rendering something at a place, against a frame and from a
    record. -/
abbrev Reporter (σ μ : Type) := List Step → Context μ → σ → List (Round μ)

/-- The round of the middlewares of a frame when a child frame is made below it
    for the printer `id`. -/
def childRound (hooks : Hooks σ μ) (id : Nat) (place : List Step) (context : Context μ)
    (rule : Rule) (state : IndentState) (record : σ) : Round μ :=
  ⟨place, id, .child, context.middlewares,
    frameCalls (.child rule) (fun middleware frame => hooks.configureChild middleware rule frame)
      context.middlewares (context.below state) record⟩

/-- The rounds of asking for the child at an index: one when its frame is made,
    then those of rendering it. A child that is not there or whose frame has no
    state brings about none. -/
def askRounds (hooks : Hooks σ μ) (reporters : List (Nat × Reporter σ μ)) (place : List Step)
    (context : Context μ) (index : Nat) (rule : Rule) (adjust : Settings → Settings)
    (record : σ) : List (Round μ) :=
  match reporters[index]?, context.settings.generator context.state rule with
  | some (id, report), .ok state =>
    childRound hooks id place context rule state record ::
      -- If one of the hooks overflows, there is no frame to render against.
      match (context.child hooks rule adjust).run record with
      | .error _ => []
      | .ok (frame, later) => report place frame later
  | _, _ => []

/-- The rounds of carrying out a plan that has asked for `asked` children
    already. -/
def Layout.rounds (hooks : Hooks σ μ) (kind : Kind) (children : List (Renderer σ μ))
    (reporters : List (Nat × Reporter σ μ)) (place : List Step) (context : Context μ) :
    Layout α → (asked : Nat) → σ → List (Round μ)
  | .done _, _, _ | .fail _, _, _ | .overflow _, _, _ => []
  | .ask index rule adjust next, asked, record =>
    askRounds hooks reporters (place ++ [⟨asked, index⟩]) context index rule adjust record ++
      match (renderChild hooks kind children context index rule adjust).run.run record with
      | .error _ => []
      | .ok (answer, later) =>
        (next answer).rounds hooks kind children reporters place context (asked + 1) later

/-- The round of the middlewares of a frame before the printer `id`, which has
    just entered it, renders. -/
def configureRound (hooks : Hooks σ μ) (id : Nat) (place : List Step) (entered : Context μ)
    (record : σ) : Round μ :=
  ⟨place, id, .configure, entered.middlewares,
    frameCalls .configure hooks.configure entered.middlewares entered record⟩

/-- The round of the middlewares of a frame when the printer `id` has made its
    text. -/
def transformRound (hooks : Hooks σ μ) (id : Nat) (place : List Step) (frame : Context μ)
    (text : String) (record : σ) : Round μ :=
  ⟨place, id, .transform, frame.middlewares,
    textCalls hooks frame frame.middlewares text record⟩

/-- The rounds of rendering a printer. -/
def Printer.rounds (hooks : Hooks σ μ) (printer : Printer) (scope : Scope)
    (children : List (Renderer σ μ)) (reporters : List (Nat × Reporter σ μ)) :
    Reporter σ μ := fun place context record =>
  configureRound hooks scope.id place (context.enter printer.kind) record ::
    match ((context.enter printer.kind).configure hooks).run record with
    | .error _ => []
    | .ok (frame, between) =>
      (printer.layout scope frame.view).rounds hooks printer.kind children reporters place frame 0
          between ++
        -- A printer that failed has no text, and nobody hears of it.
        match ((printer.layout scope frame.view).run hooks printer.kind children frame).run.run
            between with
        | .ok (.ok text, later) => [transformRound hooks scope.id place frame text later]
        | _ => []

mutual

/-- The rounds of rendering a tree, in the order in which they happen. -/
def Tree.rounds (hooks : Hooks σ μ) : Tree → Reporter σ μ
  | .node id parentKind printer children =>
    printer.rounds hooks (Tree.scope (.node id parentKind printer children))
      (Tree.renderers hooks children) (Tree.reporters hooks children)

/-- The ids and the rounds of several trees. -/
def Tree.reporters (hooks : Hooks σ μ) : List Tree → List (Nat × Reporter σ μ)
  | [] => []
  | tree :: trees => (tree.id, tree.rounds hooks) :: Tree.reporters hooks trees

end

section Cases

variable {hooks : Hooks σ μ} {kind : Kind} {children : List (Renderer σ μ)} {context : Context μ}
  {index : Nat} {rule : Rule} {adjust : Settings → Settings} {record later : σ}

theorem Rendering.bind_cases {rendering : Rendering σ α} {next : α → Rendering σ β}
    {outcome : Except PrintError β}
    (h : (rendering >>= next).run.run record = .ok (outcome, later)) :
    (∃ error, rendering.run.run record = .ok (.error error, later) ∧ outcome = .error error) ∨
      ∃ value between, rendering.run.run record = .ok (.ok value, between) ∧
        (next value).run.run between = .ok (outcome, later) := by
  rw [ExceptT.run_bind] at h
  rcases Effect.bind_cases h with ⟨result, between, hfirst, hrest⟩
  cases result with
  | error error =>
      cases hrest
      exact .inl ⟨error, hfirst, rfl⟩
  | ok value => exact .inr ⟨value, between, hfirst, hrest⟩

theorem Rendering.run_liftM_bind (effect : Effect σ α) (next : α → Rendering σ β) :
    (liftM effect >>= next : Rendering σ β).run = effect >>= fun value => (next value).run :=
  ExceptT.run_bind_lift effect next

theorem Rendering.after_cases {effect : Effect σ α} {next : α → Rendering σ β}
    {outcome : Except PrintError β}
    (h : (liftM effect >>= next : Rendering σ β).run.run record = .ok (outcome, later)) :
    ∃ value between, effect.run record = .ok (value, between) ∧
      (next value).run.run between = .ok (outcome, later) := by
  rw [run_liftM_bind] at h
  exact Effect.bind_cases h

/-- A child frame gets its state, is shown to the middlewares of its parent, and
    is adjusted in the end. -/
theorem Context.run_child (hooks : Hooks σ μ) (context : Context μ) (rule : Rule)
    (adjust : Settings → Settings) (record : σ) :
    (context.child hooks rule adjust).run record
      = (context.settings.generator context.state rule).bind fun state =>
        (((context.below state).shownTo
          (fun middleware frame => hooks.configureChild middleware rule frame)
          context.middlewares).run record).map fun pair => (pair.1.adjust adjust, pair.2) := by
  rw [child, StateT.run_bind]
  cases context.settings.generator context.state rule with
  | error cause => rfl
  | ok state =>
      -- The loop over the middlewares is that of a frame that is shown to them.
      change ((context.below state).shownTo
          (fun middleware frame => hooks.configureChild middleware rule frame) context.middlewares
        >>= fun made => pure (made.adjust adjust) : Effect σ (Context μ)).run record = _
      rw [StateT.run_bind, Except.bind]
      cases ((context.below state).shownTo _ context.middlewares).run record <;> rfl

theorem Context.child_cases {frame : Context μ}
    (h : (context.child hooks rule adjust).run record = .ok (frame, later)) :
    ∃ state made, context.settings.generator context.state rule = .ok state ∧
      ((context.below state).shownTo
        (fun middleware frame => hooks.configureChild middleware rule frame)
        context.middlewares).run record = .ok (made, later) ∧
      frame = made.adjust adjust := by
  rw [run_child] at h
  cases hstate : context.settings.generator context.state rule with
  | error cause =>
      rw [hstate] at h
      cases h
  | ok state =>
      rw [hstate, Except.bind] at h
      cases hmade : ((context.below state).shownTo
          (fun middleware frame => hooks.configureChild middleware rule frame)
          context.middlewares).run record with
      | error cause =>
          rw [hmade] at h
          cases h
      | ok pair =>
          rw [hmade] at h
          cases h
          exact ⟨state, pair.1, rfl, hmade, rfl⟩

/-- What happened when a child was asked for. -/
theorem renderChild_cases {outcome : Except PrintError String}
    (h : (renderChild hooks kind children context index rule adjust).run.run record
      = .ok (outcome, later)) :
    (∃ render frame between, children[index]? = some render ∧
      (context.child hooks rule adjust).run record = .ok (frame, between) ∧
      (render frame).run.run between = .ok (outcome, later)) ∨
    children[index]? = none ∧ outcome = .error (.childCount kind.name (index + 1) children.length) ∧
      later = record := by
  rw [renderChild] at h
  split at h
  · rename_i render hrender
    rcases Rendering.after_cases h with ⟨frame, between, hframe, hrest⟩
    exact .inl ⟨render, frame, between, hrender, hframe, hrest⟩
  · rename_i hnone
    split at h
    · cases h
      exact .inr ⟨hnone, rfl, rfl⟩
    · cases h

theorem Layout.ask_cases {next : Except PrintError String → Layout α}
    {outcome : Except PrintError α}
    (h : ((Layout.ask index rule adjust next).run hooks kind children context).run.run record
      = .ok (outcome, later)) :
    ∃ answer between,
      (renderChild hooks kind children context index rule adjust).run.run record
        = .ok (answer, between) ∧
      ((next answer).run hooks kind children context).run.run between = .ok (outcome, later) :=
  Rendering.after_cases h

/-- What happened when a printer was rendered. -/
theorem Printer.render_cases {printer : Printer} {scope : Scope}
    {outcome : Except PrintError String}
    (h : (printer.render hooks scope children context).run.run record = .ok (outcome, later)) :
    ∃ frame between,
      ((context.enter printer.kind).configure hooks).run record = .ok (frame, between) ∧
      ((∃ error, ((printer.layout scope frame.view).run hooks printer.kind children
            frame).run.run between = .ok (.error error, later) ∧ outcome = .error error) ∨
        ∃ text last final, ((printer.layout scope frame.view).run hooks printer.kind children
            frame).run.run between = .ok (.ok text, last) ∧
          (frame.rewrittenBy hooks frame.middlewares text).run last = .ok (final, later) ∧
          outcome = .ok final) := by
  rcases Rendering.after_cases h with ⟨frame, between, hframe, hrest⟩
  refine ⟨frame, between, hframe, ?_⟩
  rcases Rendering.bind_cases hrest with hfailed | ⟨text, last, htext, hrewritten⟩
  · exact .inl hfailed
  · rw [← bind_pure (liftM _ : Rendering σ String)] at hrewritten
    rcases Rendering.after_cases hrewritten with ⟨final, finish, hfinal, hpure⟩
    cases hpure
    exact .inr ⟨text, last, final, htext, hfinal, rfl⟩

end Cases

namespace Tree

/-- Induction over a tree, with the claim for all children at once. -/
@[elab_as_elim] theorem ind {motive : Tree → Prop}
    (node : ∀ id parentKind printer children, (∀ child ∈ children, motive child) →
      motive (.node id parentKind printer children)) (tree : Tree) : motive tree :=
  @Tree.rec motive (fun trees => ∀ child ∈ trees, motive child) node
    (fun _ hmem => absurd hmem List.not_mem_nil)
    (fun _ _ hfirst hrest => List.forall_mem_cons.mpr ⟨hfirst, hrest⟩) tree

/-- A tree whose printers are all of one kind. -/
inductive Every (holds : Printer → Prop) : Tree → Prop where
  | node {id : Nat} {parentKind : Option Kind} {printer : Printer} {children : List Tree}
      (hprinter : holds printer) (hchildren : ∀ child ∈ children, child.Every holds) :
      Every holds (.node id parentKind printer children)

theorem Every.imp {holds weaker : Printer → Prop} {tree : Tree} (h : tree.Every holds)
    (himp : ∀ {printer}, holds printer → weaker printer) : tree.Every weaker := by
  induction h with
  | node hprinter _ ih => exact .node (himp hprinter) ih

theorem reporters_eq_map (hooks : Hooks σ μ) (trees : List Tree) :
    reporters hooks trees = trees.map fun tree => (tree.id, tree.rounds hooks) := by
  induction trees with
  | nil => rfl
  | cons tree trees ih => rw [reporters, ih, List.map_cons]

end Tree

section Ended

variable {hooks : Hooks σ μ} {kind : Kind} {trees : List Tree} {context : Context μ}
  {place : List Step} {index : Nat} {rule : Rule} {adjust : Settings → Settings}
  {record later : σ}

/-- What asking for a child came to: its frame was made and it was rendered
    against it, or there is no such child. -/
theorem askRounds_cases {answer : Except PrintError String}
    (h : (renderChild hooks kind (Tree.renderers hooks trees) context index rule adjust).run.run
      record = .ok (answer, later)) (place : List Step) :
    (∃ tree state made between, trees[index]? = some tree ∧
      ((context.below state).shownTo
        (fun middleware frame => hooks.configureChild middleware rule frame)
        context.middlewares).run record = .ok (made, between) ∧
      (tree.render hooks (made.adjust adjust)).run.run between = .ok (answer, later) ∧
      askRounds hooks (Tree.reporters hooks trees) place context index rule adjust record
        = childRound hooks tree.id place context rule state record
          :: tree.rounds hooks place (made.adjust adjust) between) ∨
    trees[index]? = none ∧
      answer = .error (.childCount kind.name (index + 1) (Tree.renderers hooks trees).length) ∧
      later = record ∧
      askRounds hooks (Tree.reporters hooks trees) place context index rule adjust record = [] := by
  rcases renderChild_cases h with ⟨render, frame, between, hrender, hframe, hrest⟩ | ⟨hnone, ha, hl⟩
  · rw [Tree.renderers_eq_map, List.getElem?_map] at hrender
    rcases Option.map_eq_some_iff.mp hrender with ⟨tree, htree, rfl⟩
    rcases Context.child_cases hframe with ⟨state, made, hstate, hmade, rfl⟩
    -- Renderers and reporters are those of the same trees, so they are found together.
    refine .inl ⟨tree, state, made, between, htree, hmade, hrest, ?_⟩
    rw [askRounds, Tree.reporters_eq_map, List.getElem?_map, htree, hstate, hframe]
    rfl
  · rw [Tree.renderers_eq_map, List.getElem?_map] at hnone
    have hmissing : trees[index]? = none := Option.map_eq_none_iff.mp hnone
    refine .inr ⟨hmissing, ha, hl, ?_⟩
    rw [askRounds, Tree.reporters_eq_map, List.getElem?_map, hmissing]
    rfl

theorem Layout.concluded_rounds {layout : Layout α} {outcome : Except PrintError α} {asked : Nat}
    (hchildren : ∀ child ∈ trees, ∀ {place context record outcome later},
      (child.render hooks context).run.run record = .ok (outcome, later) →
      Concluded hooks (child.rounds hooks place context record) record later)
    (h : (layout.run hooks kind (Tree.renderers hooks trees) context).run.run record
      = .ok (outcome, later)) :
    Concluded hooks (layout.rounds hooks kind (Tree.renderers hooks trees)
      (Tree.reporters hooks trees) place context asked record) record later := by
  induction layout generalizing asked record with
  | done value =>
      cases h
      exact .nil hooks _
  | fail error =>
      cases h
      exact .nil hooks _
  | overflow cause => cases h
  | ask index rule adjust next ih =>
      rcases Layout.ask_cases h with ⟨answer, between, hanswer, hrest⟩
      rw [Layout.rounds, hanswer]
      refine Concluded.append ?_ (ih answer hrest)
      -- The child was rendered, or it is not there and nobody was called.
      rcases askRounds_cases hanswer (place ++ [⟨asked, index⟩]) with
        ⟨tree, state, made, middle, htree, hmade, hchild, heq⟩ | ⟨-, -, rfl, heq⟩
      · rw [heq]
        have hround : Concluded hooks [childRound hooks tree.id (place ++ [⟨asked, index⟩]) context
            rule state record] record middle :=
          .singleton (performed_frameCalls hooks (.child rule) (fun _ _ _ => rfl) hmade)
            (middleware_frameCalls_of_ok hmade)
        exact hround.append (hchildren tree (List.mem_of_getElem? htree) hchild)
      · rw [heq]
        exact .nil hooks _

/-- The record that a rendering ends with is the one that its rounds leave behind,
    each of which everyone takes part in who is due. -/
theorem Tree.concluded_rounds (hooks : Hooks σ μ) (tree : Tree) :
    ∀ {place context record outcome later},
      (tree.render hooks context).run.run record = .ok (outcome, later) →
      Concluded hooks (tree.rounds hooks place context record) record later := by
  induction tree using Tree.ind with
  | node id parentKind printer children ih =>
      intro place context record outcome later h
      rw [Tree.render] at h
      rcases Printer.render_cases h with ⟨frame, between, hframe, hrest⟩
      have hconfigured : Concluded hooks [configureRound hooks id place
          (context.enter printer.kind) record] record between :=
        .singleton (performed_frameCalls hooks .configure (fun _ _ _ => rfl) hframe)
          (middleware_frameCalls_of_ok hframe)
      rw [Tree.rounds, Printer.rounds, hframe]
      refine hconfigured.append ?_
      rcases hrest with ⟨error, hfailed, -⟩ | ⟨text, last, final, htext, hfinal, -⟩
      · -- Without a text there is no last round.
        rw [hfailed]
        exact (Layout.concluded_rounds ih hfailed).append (.nil hooks _)
      · rw [htext]
        refine (Layout.concluded_rounds ih htext).append ?_
        rcases performed_textCalls hfinal with ⟨hperformed, hcomplete⟩
        exact .singleton hperformed hcomplete

end Ended

section Any

variable {hooks : Hooks σ μ} {kind : Kind} {trees : List Tree} {context : Context μ}
  {place : List Step} {index : Nat} {rule : Rule} {adjust : Settings → Settings} {record : σ}
  {round : Round μ}

theorem mem_askRounds
    (hmem : round ∈ askRounds hooks (Tree.reporters hooks trees) place context index rule adjust
      record) :
    ∃ child state, trees[index]? = some child ∧
      context.settings.generator context.state rule = .ok state ∧
      (round = childRound hooks child.id place context rule state record ∨
        ∃ made later, ((context.below state).shownTo
            (fun middleware frame => hooks.configureChild middleware rule frame)
            context.middlewares).run record = .ok (made, later) ∧
          round ∈ child.rounds hooks place (made.adjust adjust) later) := by
  rw [askRounds, Tree.reporters_eq_map, List.getElem?_map] at hmem
  cases htree : trees[index]? with
  | none =>
      rw [htree] at hmem
      exact absurd hmem List.not_mem_nil
  | some child =>
      cases hstate : context.settings.generator context.state rule with
      | error cause =>
          rw [htree, hstate] at hmem
          exact absurd hmem List.not_mem_nil
      | ok state =>
          rw [htree, hstate] at hmem
          refine ⟨child, state, rfl, rfl, ?_⟩
          rcases List.mem_cons.mp hmem with heq | hmem
          · exact .inl heq
          · split at hmem
            · exact absurd hmem List.not_mem_nil
            · rename_i frame later hframe
              -- The account and the rendering both ask for the state, which is the same one.
              rcases Context.child_cases hframe with ⟨same, made, hsame, hmade, rfl⟩
              rw [hstate] at hsame
              cases hsame
              exact .inr ⟨made, later, hmade, hmem⟩

theorem Layout.mem_rounds {layout : Layout α} {children : List (Renderer σ μ)}
    {reporters : List (Nat × Reporter σ μ)} {asked : Nat}
    (hmem : round ∈ layout.rounds hooks kind children reporters place context asked record) :
    ∃ number index rule adjust between, asked ≤ number ∧
      round ∈ askRounds hooks reporters (place ++ [⟨number, index⟩]) context index rule adjust
        between := by
  induction layout generalizing asked record with
  | done value => exact absurd hmem List.not_mem_nil
  | fail error => exact absurd hmem List.not_mem_nil
  | overflow cause => exact absurd hmem List.not_mem_nil
  | ask index rule adjust next ih =>
      rw [Layout.rounds] at hmem
      rcases List.mem_append.mp hmem with hmem | hmem
      · exact ⟨asked, index, rule, adjust, record, Nat.le_refl _, hmem⟩
      · split at hmem
        · exact absurd hmem List.not_mem_nil
        · rcases ih _ hmem with ⟨number, index, rule, adjust, between, hle, hmem⟩
          exact ⟨number, index, rule, adjust, between, by omega, hmem⟩

/-- What a round of a rendering is: one of the two of the printer at the top, or
    the round of a child frame, or one of the rounds of a child. Whether the
    rendering came to an end does not matter. -/
theorem Tree.rounds_cases {id : Nat} {parentKind : Option Kind} {printer : Printer}
    {children : List Tree}
    (hmem : round ∈ (Tree.node id parentKind printer children).rounds hooks place context record) :
    round = configureRound hooks id place (context.enter printer.kind) record ∨
    ∃ frame between,
      ((context.enter printer.kind).configure hooks).run record = .ok (frame, between) ∧
      ((∃ text later, round = transformRound hooks id place frame text later) ∨
        ∃ step rule adjust before child state, children[step.index]? = some child ∧
          frame.settings.generator frame.state rule = .ok state ∧
          (round = childRound hooks child.id (place ++ [step]) frame rule state before ∨
            ∃ made later, ((frame.below state).shownTo
                (fun middleware frame => hooks.configureChild middleware rule frame)
                frame.middlewares).run before = .ok (made, later) ∧
              round ∈ child.rounds hooks (place ++ [step]) (made.adjust adjust) later)) := by
  rw [Tree.rounds, Printer.rounds] at hmem
  rcases List.mem_cons.mp hmem with heq | hmem
  · exact .inl heq
  · split at hmem
    · exact absurd hmem List.not_mem_nil
    · rename_i frame between hframe
      refine .inr ⟨frame, between, hframe, ?_⟩
      rcases List.mem_append.mp hmem with hmem | hmem
      · rcases Layout.mem_rounds hmem with ⟨number, index, rule, adjust, before, -, hmem⟩
        exact .inr ⟨⟨number, index⟩, rule, adjust, before, mem_askRounds hmem⟩
      · split at hmem
        · exact .inl ⟨_, _, List.mem_singleton.mp hmem⟩
        · exact absurd hmem List.not_mem_nil

end Any

end Print

end ClassForge
