import Mathlib.Data.List.Forall2
import ClassForge.Print.Output
import ClassForge.Proofs.Print.Combining
import ClassForge.Proofs.Print.Placement

/-!
# Rendering under Indentation and Tracing

What printing comes to when a rendering is watched by middlewares of two kinds:
those that indent sequences of statements, and those that note every rendered
printer. A generator uses one of each. There may as well be no indentation, or
more than one, and the only thing that matters is how many there are.

A rendering threads a record through every call and may end in three ways.
None of that matters to the text. Tracing writes to the record and nobody reads
it, so `Yields` forgets it: a rendering yields an outcome if it ends that way
whatever has been recorded before. An outcome is a text or an overflow, so a
rendering that yields anything never fails to print.

What the frame of a printer contributes is just as little. None of the
middlewares changes a frame, so every frame below a watched one is watched too,
and the only thing that differs between two watched frames is the number of
levels. `Draws` says this of an outline: from any place of a tree and against any
watched frame its text is a function of the frame's level count alone. The lemmas
at the end are the ones a grammar is built with, one for each way in which a
printer asks for its children.

## Main definitions

* `Effect.Gives`, `Rendering.Yields`: How a computation ends, whatever has been
  recorded.
* `Watchers`: Middlewares that indent or note.
* `Config.finish`, `Config.finishAll`: What the kind of a printer demands of its
  text, once and as often as somebody indents.
* `Context.Watched`: A frame with such middlewares and the standard states.
* `ChildSize`: The level count of a child frame.
* `Renderer.Draws`, `Outline.Draws`: The text is a function of the level count.
* `gather`: Several texts, up to the first overflow.
* `Outline.LayoutYields`: What a layout yields for children that draw.

## Theorems

* `Rendering.yields_bind`: Outcomes follow one another.
* `Watchers.gives_configure`, `Watchers.gives_child`, `Watchers.gives_transform`:
  What the middlewares do to frames and texts.
* `Context.Watched.child_frame`: A frame below a watched one is watched.
* `yields_answer`, `yields_answers`: What asking for children is answered with.
* `yields_child`, `yields_texts`: What asking for children yields.
* `Outline.draws_of_layout`, `Outline.draws_node`: The text of a printer is what
  its layout yields.
* `Outline.draws_combine`: The text of a combining printer.
* `Outline.draws_sequence`, `Outline.draws_body`, `Outline.draws_file`: The
  texts of statements in a row.
* `Outline.print_of_draws`: Printing an outline from a root frame.
-/

namespace ClassForge

namespace Print

variable {σ μ α β : Type}

namespace Effect

/-- An effect ends as `outcome` says, whatever has been recorded before. -/
def Gives (effect : Effect σ α) : Except Overflow α → Prop
  | .ok value => ∀ record, ∃ later, effect.run record = .ok (value, later)
  | .error cause => ∀ record, effect.run record = .error cause

theorem gives_pure (value : α) : Gives (pure value : Effect σ α) (.ok value) := by
  intro record
  exact ⟨record, rfl⟩

theorem gives_lift (outcome : Except Overflow α) :
    Gives (liftM outcome : Effect σ α) outcome := by
  cases outcome with
  | error cause =>
      intro record
      rfl
  | ok value =>
      intro record
      exact ⟨record, rfl⟩

/-- An effect that goes on as another one, from whatever record, ends like
    it. -/
theorem gives_of_run {effect other : Effect σ α} {outcome : Except Overflow α}
    (hrun : ∀ record, ∃ later, effect.run record = other.run later) (h : Gives other outcome) :
    Gives effect outcome := by
  cases outcome with
  | error cause =>
      intro record
      rcases hrun record with ⟨later, hlater⟩
      rw [hlater]
      exact h later
  | ok value =>
      intro record
      rcases hrun record with ⟨later, hlater⟩
      rw [hlater]
      exact h later

theorem gives_bind {effect : Effect σ α} {outcome : Except Overflow α} {next : α → Effect σ β}
    {result : α → Except Overflow β} (h : Gives effect outcome)
    (hnext : ∀ value, outcome = .ok value → Gives (next value) (result value)) :
    Gives (effect >>= next) (outcome.bind result) := by
  cases outcome with
  | error cause =>
      intro record
      rw [StateT.run_bind, h record]
      rfl
  | ok value =>
      refine gives_of_run (fun record => ?_) (hnext value rfl)
      rcases h record with ⟨later, hrun⟩
      exact ⟨later, by rw [StateT.run_bind, hrun]; rfl⟩

end Effect

namespace Rendering

/-- A rendering ends as `outcome` says, whatever has been recorded before. In
    particular it never fails to print. -/
def Yields (rendering : Rendering σ α) (outcome : Except Overflow α) : Prop :=
  Effect.Gives rendering.run (outcome.map .ok)

theorem yields_pure (value : α) : Yields (pure value : Rendering σ α) (.ok value) :=
  Effect.gives_pure _

theorem yields_overflow (cause : Overflow) :
    Yields (Rendering.overflow cause : Rendering σ α) (.error cause) := by
  intro record
  rfl

theorem yields_bind {rendering : Rendering σ α} {outcome : Except Overflow α}
    {next : α → Rendering σ β} {result : α → Except Overflow β} (h : Yields rendering outcome)
    (hnext : ∀ value, outcome = .ok value → Yields (next value) (result value)) :
    Yields (rendering >>= next) (outcome.bind result) := by
  cases outcome with
  | error cause =>
      intro record
      rw [ExceptT.run_bind, StateT.run_bind, h record]
      rfl
  | ok value =>
      refine Effect.gives_of_run (fun record => ?_) (hnext value rfl)
      rcases h record with ⟨later, hrun⟩
      exact ⟨later, by rw [ExceptT.run_bind, StateT.run_bind, hrun]; rfl⟩

theorem yields_map {rendering : Rendering σ α} {outcome : Except Overflow α}
    (h : Yields rendering outcome) (change : α → β) :
    Yields (rendering >>= fun value => pure (change value)) (outcome.map change) := by
  have hbind := yields_bind h (fun value _ => yields_pure (σ := σ) (change value))
  cases outcome with
  | error cause => exact hbind
  | ok value => exact hbind

/-- An effect that ends somehow yields the same as a rendering. -/
theorem yields_lift {effect : Effect σ α} {outcome : Except Overflow α}
    (h : Effect.Gives effect outcome) : Yields (liftM effect : Rendering σ α) outcome := by
  -- Lifting only marks the value of an effect as one that did not fail.
  have hrun : ∀ record, (liftM effect : Rendering σ α).run.run record
      = (effect.run record).map fun pair => (.ok pair.1, pair.2) := by
    intro record
    change (ExceptT.lift effect).run.run record = _
    rw [ExceptT.run_lift, StateT.run_map]
    rfl
  cases outcome with
  | error cause =>
      intro record
      rw [hrun, h record]
      rfl
  | ok value =>
      intro record
      rcases h record with ⟨later, hlater⟩
      exact ⟨later, by rw [hrun, hlater]; rfl⟩

/-- What an effect gives is handed to the rendering after it. -/
theorem yields_after {effect : Effect σ α} {value : α} {next : α → Rendering σ β}
    {outcome : Except Overflow β} (h : Effect.Gives effect (.ok value))
    (hnext : Yields (next value) outcome) : Yields (liftM effect >>= next) outcome := by
  have hsame : ∀ other, Except.ok value = (.ok other : Except Overflow α) →
      Yields (next other) outcome := by
    intro other hother
    cases hother
    exact hnext
  exact yields_bind (yields_lift h) hsame

theorem yields_attempt {rendering : Rendering σ α} {outcome : Except Overflow α}
    (h : Yields rendering outcome) : Yields rendering.attempt (outcome.map .ok) :=
  yields_lift h

end Rendering

namespace Context

/-- A frame that is given its own settings and no middleware stays as it is. -/
theorem apply_same (context : Context μ) : context.apply ⟨context.settings, []⟩ = context := by
  rcases context with ⟨⟨settings, middlewares, printer⟩, enclosing⟩
  simp only [apply, adjust, install, Context.middlewares, Context.settings, List.append_nil]

end Context

/-- What becomes of the text of a printer of this kind at a level count: a
    sequence of statements gets a lead in front of every line, and any other
    text stays as it is. -/
def Config.finish (config : Config) (kind : Kind) (size : Size) (text : String) :
    Except Overflow String :=
  if kind = .statementSequence then
    (config.indent.process size).map fun lead => Text.leadLines lead text
  else .ok text

/-- What becomes of it if several middlewares indent, one after the other. -/
def Config.finishAll (config : Config) (kind : Kind) (size : Size) :
    (indents : Nat) → String → Except Overflow String
  | 0, text => .ok text
  | indents + 1, text => (config.finish kind size text).bind (config.finishAll kind size indents)

/-- A text of any kind but a sequence stays as it is. -/
theorem Config.finishAll_of_ne (config : Config) {kind : Kind} (hkind : kind ≠ .statementSequence)
    (size : Size) (indents : Nat) (text : String) :
    config.finishAll kind size indents text = .ok text := by
  induction indents with
  | zero => rfl
  | succ indents ih =>
      rw [finishAll, finish, if_neg hkind]
      exact ih

theorem Context.indentText_enter {config : Config} {context : Context Middleware}
    (hconfig : context.config = config) (kind : Kind) (text : String) :
    (context.enter kind).indentText text = config.finish kind context.state.size text := by
  have hstack : (context.enter kind).stack.head? = some kind := rfl
  have hlead : (context.enter kind).lead = config.indent.process context.state.size := by
    rw [← hconfig]
    rfl
  rw [Context.indentText, hstack, hlead, Config.finish]
  simp only [Option.some.injEq]

/-- How many of some middlewares indent. -/
def Middleware.indents : List Middleware → Nat
  | [] => 0
  | .indent :: middlewares => indents middlewares + 1
  | _ :: middlewares => indents middlewares

/-- Middlewares that indent or note, in calling order. -/
structure Watchers where
  /-- The middlewares. -/
  middlewares : List Middleware
  /-- There are no others. -/
  known : ∀ middleware ∈ middlewares, middleware = .indent ∨ middleware = .trace

namespace Watchers

/-- The middlewares that a generator uses. -/
def usual : Watchers :=
  ⟨[.indent, .trace], List.forall_mem_cons.mpr ⟨.inl rfl, List.forall_mem_singleton.mpr (.inr rfl)⟩⟩

theorem middlewares_usual : usual.middlewares = [.indent, .trace] := rfl

/-- The trace with indentation in front of it and behind it. -/
def around (before after : Nat) : Watchers where
  middlewares := List.replicate before .indent ++ .trace :: List.replicate after .indent
  known := by
    intro middleware hmem
    rcases List.mem_append.mp hmem with hmem | hmem
    · exact .inl (List.eq_of_mem_replicate hmem)
    · rcases List.mem_cons.mp hmem with rfl | hmem
      · exact .inr rfl
      · exact .inl (List.eq_of_mem_replicate hmem)

/-- How often a text is indented. -/
def indents (watchers : Watchers) : Nat := Middleware.indents watchers.middlewares

theorem indents_around (before after : Nat) : (around before after).indents = before + after := by
  have hreplicate : ∀ (count : Nat) (rest : List Middleware),
      Middleware.indents (List.replicate count .indent ++ rest)
        = count + Middleware.indents rest := by
    intro count rest
    induction count with
    | zero => exact (Nat.zero_add _).symm
    | succ count ih =>
        rw [List.replicate_succ, List.cons_append, Middleware.indents, ih, Nat.add_right_comm]
  have hafter := hreplicate after []
  rw [List.append_nil] at hafter
  exact (hreplicate before _).trans (congrArg (before + ·) hafter)

variable {watchers : Watchers} {context : Context Middleware}
  (h : context.middlewares = watchers.middlewares)

include h

-- A middleware that hands back the settings that a frame has leaves it as it is.
theorem foldlM_same (hook : Middleware → Context Middleware → Effect Journal (Change Middleware))
    (hindent : ∀ frame, hook .indent frame = pure ⟨frame.settings, []⟩)
    (htrace : ∀ frame, hook .trace frame = pure ⟨frame.settings, []⟩)
    (frame : Context Middleware) :
    context.middlewares.foldlM (fun made middleware => do
      return made.apply (← hook middleware made)) frame = pure frame := by
  rw [h]
  have hall : ∀ middlewares : List Middleware,
      (∀ middleware ∈ middlewares, middleware = .indent ∨ middleware = .trace) →
      middlewares.foldlM (fun made middleware => do
        return made.apply (← hook middleware made)) frame = (pure frame : Effect _ _) := by
    intro middlewares hknown
    induction middlewares with
    | nil => rfl
    | cons middleware middlewares ih =>
        have hsame : hook middleware frame = pure ⟨frame.settings, []⟩ := by
          rcases hknown middleware List.mem_cons_self with rfl | rfl
          · exact hindent frame
          · exact htrace frame
        rw [List.foldlM_cons, hsame, pure_bind, pure_bind, Context.apply_same]
        exact ih fun other hmem => hknown other (List.mem_cons_of_mem _ hmem)
  exact hall watchers.middlewares watchers.known

/-- The middlewares leave the frame of a printer alone. -/
theorem gives_configure : Effect.Gives (context.configure Middleware.hooks) (.ok context) := by
  rw [Context.configure, foldlM_same h Middleware.hooks.configure (fun _ => rfl) fun _ => rfl]
  exact Effect.gives_pure context

/-- The middlewares leave a child frame alone. -/
theorem gives_child {rule : Rule} {state : IndentState}
    (hstate : context.settings.generator context.state rule = .ok state)
    (adjust : Settings → Settings) :
    Effect.Gives (context.child Middleware.hooks rule adjust)
      (.ok ((context.below state).adjust adjust)) := by
  have hmade : (liftM (.ok state : Except Overflow IndentState) : Effect Journal IndentState)
      = pure state := rfl
  rw [Context.child, hstate, hmade, pure_bind, foldlM_same h (fun middleware =>
    Middleware.hooks.configureChild middleware rule) (fun _ => rfl) fun _ => rfl, pure_bind]
  exact Effect.gives_pure _

/-- The text of a printer is indented as often as there is somebody who does. -/
theorem gives_transform (kind : Kind) (text : String) :
    Effect.Gives ((context.enter kind).transform Middleware.hooks text)
      (context.config.finishAll kind context.state.size watchers.indents text) := by
  have hall : ∀ middlewares : List Middleware,
      (∀ middleware ∈ middlewares, middleware = .indent ∨ middleware = .trace) → ∀ text,
      Effect.Gives (middlewares.foldlM (fun text middleware =>
          Middleware.hooks.transform middleware (context.enter kind) text) text)
        (context.config.finishAll kind context.state.size (Middleware.indents middlewares)
          text) := by
    intro middlewares hknown
    -- The text differs from step to step and the frame does not, so the list is what is inducted
    -- on.
    induction middlewares with
    | nil => exact fun text => Effect.gives_pure text
    | cons middleware middlewares ih =>
        intro text
        have hrest := ih fun other hmem => hknown other (List.mem_cons_of_mem _ hmem)
        rw [List.foldlM_cons]
        rcases hknown middleware List.mem_cons_self with rfl | rfl
        · have hindent : Effect.Gives
              (Middleware.hooks.transform .indent (context.enter kind) text)
              (context.config.finish kind context.state.size text) := by
            rw [← Context.indentText_enter rfl]
            exact Effect.gives_lift _
          exact Effect.gives_bind hindent fun text _ => hrest text
        · -- Tracing hands on what it notes.
          have htrace : Effect.Gives
              (Middleware.hooks.transform .trace (context.enter kind) text) (.ok text) :=
            fun _ => ⟨_, rfl⟩
          exact Effect.gives_bind htrace fun text _ => hrest text
  have hmiddlewares : (context.enter kind).middlewares = watchers.middlewares := h
  rw [Context.transform, hmiddlewares]
  exact hall watchers.middlewares watchers.known text

end Watchers

/-- A frame with these middlewares and no others, under a configuration and with the
    standard states. -/
structure Context.Watched (watchers : Watchers) (config : Config) (context : Context Middleware) :
    Prop where
  /-- The configuration in force. -/
  config_eq : context.config = config
  /-- Child frames get the standard states. -/
  generator_eq : context.settings.generator = .standard
  /-- The middlewares in calling order. -/
  middlewares_eq : context.middlewares = watchers.middlewares

section Frames

variable {watchers : Watchers} {config : Config} {context : Context Middleware}

theorem Context.watched_initial (watchers : Watchers) (config : Config) :
    (initial config watchers.middlewares).Watched watchers config :=
  ⟨rfl, rfl, rfl⟩

theorem Context.Watched.enter (h : context.Watched watchers config) (kind : Kind) :
    (context.enter kind).Watched watchers config :=
  ⟨h.config_eq, h.generator_eq, h.middlewares_eq⟩

theorem Context.Watched.gives_transform (h : context.Watched watchers config) (kind : Kind)
    (text : String) :
    Effect.Gives ((context.enter kind).transform Middleware.hooks text)
      (config.finishAll kind context.state.size watchers.indents text) := by
  have htransform := Watchers.gives_transform h.middlewares_eq kind text
  rwa [h.config_eq] at htransform

end Frames

/-- A child frame made with this rule and adjustment below a frame of level
    count `size` has level count `result`, and its settings differ from the
    parent's in nothing but the state. -/
def ChildSize (rule : Rule) (adjust : Settings → Settings) (size result : Size) : Prop :=
  ∀ settings : Settings, settings.state.size = size → ∃ made final : IndentState,
    rule.apply settings.state.derive = .ok made ∧
      adjust { settings with state := made } = { settings with state := final } ∧
      final.size = result

theorem childSize_keep (size : Size) : ChildSize .keep (fun same => same) size size :=
  fun settings hsize => ⟨settings.state.derive, settings.state.derive, rfl, rfl, hsize⟩

theorem childSize_forced (size result : Size) :
    ChildSize .keep (Settings.withSize result) size result :=
  fun settings _ =>
    ⟨settings.state.derive, { settings.state.derive with size := result }, rfl, rfl, rfl⟩

theorem childSize_indentTo (size result : Size) :
    ChildSize (.indentTo result) (fun same => same) size result :=
  fun settings _ =>
    ⟨{ settings.state.derive with size := result },
      { settings.state.derive with size := result }, rfl, rfl, rfl⟩

/-- A frame below a watched one is watched, at the level count that the rule
    and the adjustment give it. -/
theorem Context.Watched.child_frame {watchers : Watchers} {config : Config}
    {context : Context Middleware} (h : context.Watched watchers config) {rule : Rule}
    {adjust : Settings → Settings} {result : Size}
    (hsize : ChildSize rule adjust context.state.size result) :
    ∃ frame, Effect.Gives (context.child Middleware.hooks rule adjust) (.ok frame) ∧
      frame.Watched watchers config ∧ frame.state.size = result := by
  rcases hsize context.settings rfl with ⟨made, final, hmade, hfinal, hresult⟩
  -- The adjustment replaces the state and nothing else.
  have hsettings : ((context.below made).adjust adjust).settings
      = { context.settings with state := final } := hfinal
  have hstate : context.settings.generator context.state rule = .ok made := by
    rw [h.generator_eq]
    exact hmade
  refine ⟨(context.below made).adjust adjust, Watchers.gives_child h.middlewares_eq hstate adjust,
    ⟨?_, ?_, ?_⟩, ?_⟩
  · rw [Context.config, hsettings]
    exact h.config_eq
  · rw [hsettings]
    exact h.generator_eq
  · exact h.middlewares_eq
  · rw [Context.state, hsettings]
    exact hresult

/-- Against every watched frame a renderer ends as the frame's level count
    says. -/
def Renderer.Draws (watchers : Watchers) (config : Config) (render : Renderer Journal Middleware)
    (text : Size → Except Overflow String) : Prop :=
  ∀ context : Context Middleware, context.Watched watchers config →
    Rendering.Yields (render context) (text context.state.size)

/-- The texts at a level count, up to the first overflow. -/
def gather (texts : List (Size → Except Overflow String)) (size : Size) :
    Except Overflow (List String) :=
  texts.mapM fun text => text size

section Answers

open Rendering

variable {hooks : Hooks σ μ} {context : Context μ} {kind : Kind} {children : List (Renderer σ μ)}

/-- A child that is asked for is answered with what its rendering yields. -/
theorem yields_answer {index : Nat} {rule : Rule} {adjust : Settings → Settings}
    {outcome : Except Overflow String}
    (h : Yields (renderChild hooks kind children context index rule adjust) outcome) :
    Yields ((Layout.child index rule adjust).run hooks kind children context) outcome := by
  -- Only a text is answered: a rendering that yields an outcome never fails.
  have hnext : ∀ answer, outcome.map Except.ok = .ok answer →
      Yields ((Layout.ofExcept answer).run hooks kind children context) outcome := by
    intro answer hanswer
    cases outcome with
    | error cause => cases hanswer
    | ok value =>
        cases hanswer
        exact yields_pure value
  have hboth := yields_bind (yields_attempt h) hnext
  cases outcome with
  | error cause => exact hboth
  | ok value => exact hboth

theorem yields_answersFrom {adjust : Settings → Settings} :
    ∀ (front rest : List (Renderer σ μ)) (outcomes : List (Except Overflow String)),
      children = front ++ rest →
      List.Forall₂ (fun render outcome =>
        Yields (liftM (context.child hooks .keep adjust) >>= render) outcome) rest outcomes →
      Yields ((Layout.childrenFrom adjust front.length rest.length).run hooks kind children context)
        (outcomes.mapM id) := by
  -- The induction is on the children still to be asked for, which stand behind
  -- `front`.
  intro front rest outcomes hsplit hanswers
  induction hanswers generalizing front with
  | nil => exact yields_pure []
  | @cons render outcome rest outcomes hfirst _ ih =>
      have hget : children[front.length]? = some render := by
        rw [hsplit, List.getElem?_append_right (Nat.le_refl _), Nat.sub_self]
        rfl
      have hchild : Yields
          ((Layout.child front.length .keep adjust).run hooks kind children context) outcome := by
        refine yields_answer ?_
        rw [renderChild, hget]
        exact hfirst
      have hlater := ih (front ++ [render]) (by rw [hsplit, List.append_assoc]; rfl)
      rw [List.length_append] at hlater
      -- One child now, and the texts of the others behind its own.
      change Yields (((Layout.child front.length .keep adjust).bind fun text =>
        (Layout.childrenFrom adjust (front.length + 1) rest.length).bind
          fun texts => .done (text :: texts)).run _ _ _ _) _
      rw [Layout.run_bind, List.mapM_cons]
      refine yields_bind hchild (fun value _ => ?_)
      rw [Layout.run_bind]
      exact yields_bind hlater (fun values _ => yields_pure _)

/-- All children that are asked for are answered with what their renderings yield,
    up to the first overflow. -/
theorem yields_answers {scope : Scope} {adjust : Settings → Settings}
    {outcomes : List (Except Overflow String)}
    (hcount : scope.children.length = children.length)
    (hanswers : List.Forall₂ (fun render outcome =>
      Yields (liftM (context.child hooks .keep adjust) >>= render) outcome) children outcomes) :
    Yields ((scope.texts adjust).run hooks kind children context) (outcomes.mapM id) := by
  rw [Scope.texts, hcount]
  exact yields_answersFrom [] children outcomes rfl hanswers

/-- A printer whose frame stays as it is while it is configured yields what its
    layout yields, rewritten. -/
theorem yields_finished {printer : Printer} {scope : Scope} {outcome : Except Overflow String}
    {finish : String → Except Overflow String}
    (hconfigure : Effect.Gives ((context.enter printer.kind).configure hooks)
      (.ok (context.enter printer.kind)))
    (hmade : Yields ((printer.layout scope (context.enter printer.kind).view).run hooks
      printer.kind children (context.enter printer.kind)) outcome)
    (hfinish : ∀ made, Effect.Gives ((context.enter printer.kind).transform hooks made)
      (finish made)) :
    Yields (printer.render hooks scope children context) (outcome.bind finish) :=
  yields_after hconfigure (yields_bind hmade fun made _ => yields_lift (hfinish made))

end Answers

section Layouts

open Rendering

variable {watchers : Watchers} {config : Config} {context : Context Middleware} {kind : Kind}
  {children : List (Renderer Journal Middleware)}

theorem yields_renderChild (h : context.Watched watchers config) {index : Nat}
    {render : Renderer Journal Middleware} {text : Size → Except Overflow String}
    (hchild : children[index]? = some render) (hdraws : render.Draws watchers config text)
    {rule : Rule} {adjust : Settings → Settings} {result : Size}
    (hsize : ChildSize rule adjust context.state.size result) :
    Yields (renderChild Middleware.hooks kind children context index rule adjust)
      (text result) := by
  rcases h.child_frame hsize with ⟨frame, hgives, hwatched, hresult⟩
  rw [renderChild, hchild, ← hresult]
  exact yields_after hgives (hdraws frame hwatched)

/-- A child that draws its text is answered with it. -/
theorem yields_child (h : context.Watched watchers config) {index : Nat}
    {render : Renderer Journal Middleware} {text : Size → Except Overflow String}
    (hchild : children[index]? = some render) (hdraws : render.Draws watchers config text)
    {rule : Rule} {adjust : Settings → Settings} {result : Size}
    (hsize : ChildSize rule adjust context.state.size result) :
    Yields ((Layout.child index rule adjust).run Middleware.hooks kind children context)
      (text result) :=
  yields_answer (yields_renderChild h hchild hdraws hsize)

/-- Among children that draw texts, the one at an index is answered with the
    text at that index. -/
theorem yields_child_at (h : context.Watched watchers config) {index : Nat}
    {texts : List (Size → Except Overflow String)} {text : Size → Except Overflow String}
    (hdraws : List.Forall₂ (Renderer.Draws watchers config) children texts)
    (htext : texts[index]? = some text) {rule : Rule} {adjust : Settings → Settings}
    {result : Size} (hsize : ChildSize rule adjust context.state.size result) :
    Yields ((Layout.child index rule adjust).run Middleware.hooks kind children context)
      (text result) := by
  rcases List.getElem?_eq_some_iff.mp htext with ⟨hlt, hget⟩
  have hlt' : index < children.length := by
    rw [hdraws.length_eq]
    exact hlt
  have hdraw := (List.forall₂_iff_get.mp hdraws).2 index hlt' hlt
  rw [List.get_eq_getElem, List.get_eq_getElem, hget] at hdraw
  exact yields_child h (List.getElem?_eq_getElem hlt') hdraw hsize

/-- Children that draw their texts are answered with all of them, up to the
    first overflow. -/
theorem yields_texts (h : context.Watched watchers config) {scope : Scope}
    (hcount : scope.children.length = children.length)
    {texts : List (Size → Except Overflow String)}
    (hdraws : List.Forall₂ (Renderer.Draws watchers config) children texts) :
    Yields (scope.texts.run Middleware.hooks kind children context)
      (gather texts context.state.size) := by
  -- Every child is rendered at the level in force.
  rcases h.child_frame (childSize_keep context.state.size) with ⟨frame, hgives, hwatched, hsize⟩
  have hanswers : List.Forall₂ (fun render outcome =>
      Yields (liftM (context.child Middleware.hooks .keep fun same => same) >>= render) outcome)
      children (texts.map fun text => text context.state.size) := by
    rw [List.forall₂_map_right_iff]
    refine hdraws.imp fun render text hdraw => yields_after hgives ?_
    rw [← hsize]
    exact hdraw frame hwatched
  have hall : Yields (scope.texts.run Middleware.hooks kind children context) _ :=
    yields_answers hcount hanswers
  rwa [List.mapM_map] at hall

theorem yields_ofSize (outcome : Except Overflow α) :
    Yields ((Layout.ofSize outcome).run Middleware.hooks kind children context) outcome := by
  cases outcome with
  | error cause => exact yields_overflow cause
  | ok value => exact yields_pure value

/-- A printer is rendered by carrying out its layout and finishing the text as
    its kind demands. -/
theorem yields_printer (h : context.Watched watchers config) {printer : Printer} {scope : Scope}
    {outcome : Except Overflow String}
    (hmade : Yields ((printer.layout scope (context.enter printer.kind).view).run
      Middleware.hooks printer.kind children (context.enter printer.kind)) outcome) :
    Yields (printer.render Middleware.hooks scope children context)
      (outcome.bind (config.finishAll printer.kind context.state.size watchers.indents)) :=
  -- Entering the printer changes its frame in nothing that the middlewares see.
  yields_finished (Watchers.gives_configure (h.enter printer.kind).middlewares_eq) hmade
    (h.gives_transform printer.kind)

end Layouts

namespace Outline

open Rendering

/-- From any place of a tree and against any watched frame, the text of an
    outline is a function of the frame's level count. -/
def Draws (watchers : Watchers) (config : Config) (outline : Outline)
    (text : Size → Except Overflow String) : Prop :=
  ∀ (parentKind : Option Kind) (base : Nat),
    Renderer.Draws watchers config ((outline.placed parentKind base).render Middleware.hooks) text

variable {watchers : Watchers} {config : Config} {printer : Printer} {children : List Outline}
  {texts : List (Size → Except Overflow String)} {text : Size → Except Overflow String}

theorem draws_renderers (hdraws : List.Forall₂ (Draws watchers config) children texts)
    (parentKind : Option Kind) (base : Nat) :
    List.Forall₂ (Renderer.Draws watchers config)
      (Tree.renderers Middleware.hooks (placedAll parentKind base children)) texts := by
  induction hdraws generalizing base with
  | nil => exact List.Forall₂.nil
  | cons hfirst _ ih => exact List.Forall₂.cons (hfirst parentKind base) (ih _)

theorem length_placedAll (parentKind : Option Kind) (base : Nat) (outlines : List Outline) :
    (placedAll parentKind base outlines).length = outlines.length := by
  induction outlines generalizing base with
  | nil => rfl
  | cons outline outlines ih => rw [placedAll, List.length_cons, ih, List.length_cons]

/-- What a layout yields for children that draw their texts, whatever their
    place and the frame. -/
def LayoutYields (watchers : Watchers) (config : Config) (printer : Printer) (count : Nat)
    (texts : List (Size → Except Overflow String)) (text : Size → Except Overflow String) : Prop :=
  ∀ (scope : Scope) (context : Context Middleware) (children : List (Renderer Journal Middleware)),
    scope.children.length = count → children.length = count → context.Watched watchers config →
    List.Forall₂ (Renderer.Draws watchers config) children texts →
    Yields ((printer.layout scope context.view).run Middleware.hooks printer.kind children context)
      (text context.state.size)

/-- The text of a printer is what its layout yields, finished as its kind
    demands. -/
theorem draws_of_layout (hdraws : List.Forall₂ (Draws watchers config) children texts)
    (hlayout : LayoutYields watchers config printer children.length texts text) :
    Draws watchers config (.node printer children) fun size =>
      (text size).bind (config.finishAll printer.kind size watchers.indents) := by
  intro parentKind base context hwatched
  have hchildren := draws_renderers hdraws (some printer.kind) (base + 1)
  have hcount := length_placedAll (some printer.kind) (base + 1) children
  refine yields_printer hwatched ?_
  exact hlayout _ (context.enter printer.kind) _ (by rw [Tree.scope, List.length_map, hcount])
    (hchildren.length_eq.trans hdraws.length_eq.symm) (hwatched.enter printer.kind) hchildren

/-- A printer of any kind but a sequence keeps the text that its layout
    yields. -/
theorem draws_node (hkind : printer.kind ≠ .statementSequence)
    (hdraws : List.Forall₂ (Draws watchers config) children texts)
    (hlayout : LayoutYields watchers config printer children.length texts text) :
    Draws watchers config (.node printer children) text := by
  have h := draws_of_layout hdraws hlayout
  -- Only the text of a sequence is finished in any way.
  have hsame : (fun size =>
      (text size).bind (config.finishAll printer.kind size watchers.indents)) = text := by
    funext size
    cases text size with
    | error cause => rfl
    | ok made => exact config.finishAll_of_ne hkind size watchers.indents made
  rwa [hsame] at h

/-- Fixed text is drawn at every level. -/
theorem draws_text (watchers : Watchers) (config : Config) (name content : String) :
    Draws watchers config (Outline.text name content) fun _ => .ok content :=
  draws_node (fun hkind => by cases hkind) List.Forall₂.nil
    (fun _ _ _ _ _ _ _ => yields_pure content)

theorem layoutYields_combine {combine : List String → String} {count : Nat}
    (hcombines : printer.Combines count combine) :
    LayoutYields watchers config printer count texts
      fun size => (gather texts size).map combine := by
  intro scope context renderers hscope hcount hwatched hdraws
  have htexts : Yields (scope.texts.run Middleware.hooks printer.kind renderers context)
      (gather texts context.state.size) :=
    yields_texts hwatched (hscope.trans hcount.symm) hdraws
  rw [hcombines scope context.view hscope, Layout.run_bind]
  exact yields_map htexts combine

/-- The text of a printer that combines the texts of its children. -/
theorem draws_combine {combine : List String → String}
    (hkind : printer.kind ≠ .statementSequence)
    (hcombines : printer.Combines children.length combine)
    (hdraws : List.Forall₂ (Draws watchers config) children texts) :
    Draws watchers config (.node printer children) fun size => (gather texts size).map combine :=
  draws_node hkind hdraws (layoutYields_combine hcombines)

/-- Sibling statements are joined by line feeds, and each line of the result
    gets the lead of the level count. -/
theorem draws_sequence (hdraws : List.Forall₂ (Draws watchers config) children texts) :
    Draws watchers config (sequence children) fun size =>
      ((gather texts size).map "\n".intercalate).bind
        (config.finishAll .statementSequence size watchers.indents) :=
  draws_of_layout hdraws (layoutYields_combine (Printer.combines_sequence _))

theorem gather_singleton (text : Size → Except Overflow String) (size : Size) :
    gather [text] size = (text size).map fun made => [made] := by
  simp only [gather, List.mapM_cons, List.mapM_nil]
  cases text size <;> rfl

/-- A printer that combines the text of a single child into that very text
    passes it on. -/
theorem draws_only {combine : List String → String} {outline : Outline}
    (hkind : printer.kind ≠ .statementSequence) (hcombines : printer.Combines 1 combine)
    (hcombine : ∀ made, combine [made] = made) (hdraws : Draws watchers config outline text) :
    Draws watchers config (.node printer [outline]) text := by
  have h := draws_node hkind (List.Forall₂.cons hdraws List.Forall₂.nil)
    (layoutYields_combine hcombines)
  have hsame : (fun size => (gather [text] size).map combine) = text := by
    funext size
    rw [gather_singleton]
    cases text size with
    | error cause => rfl
    | ok made => exact congrArg Except.ok (hcombine made)
  rwa [hsame] at h

/-- A body has the text of its statements. -/
theorem draws_body (hdraws : Draws watchers config (sequence children) text) :
    Draws watchers config (body children) text := by
  refine draws_only (fun hkind => by cases hkind) Printer.combines_passThrough (fun made => ?_)
    hdraws
  rw [String.join_cons, String.join_nil, String.append_empty]

/-- A file has the text of its statements. -/
theorem draws_file (hdraws : Draws watchers config (sequence children) text) :
    Draws watchers config (file children) text := by
  refine draws_only (fun hkind => by cases hkind) (fun _ _ _ => rfl) (fun made => ?_) hdraws
  exact String.intercalate_singleton

/-- Printing an outline from a root frame gives its text at level zero. -/
theorem print_of_draws {outline : Outline} (hdraws : Draws watchers config outline text) :
    (outline.print (.initial config watchers.middlewares)).map Prod.fst
      = (text 0).map Except.ok := by
  have h := hdraws none 0 _ (Context.watched_initial watchers config)
  change Yields _ (text 0) at h
  -- The detour through the arena ends here, and so does what has been recorded.
  rw [Outline.print, Tree.print, tree_eq_placed]
  cases htext : text 0 with
  | error cause =>
      rw [htext] at h
      rw [h Journal.empty]
      rfl
  | ok made =>
      rw [htext] at h
      rcases h Journal.empty with ⟨journal, hrun⟩
      rw [hrun]
      rfl

end Outline

end Print

end ClassForge
