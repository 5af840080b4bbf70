import ClassForge.Proofs.Print.Watched

/-!
# Rendering that cannot Fail

A printer gives up if it has another number of children than it needs, or if it
asks for a child that is not there. Whether that happens is decided by the
outline alone: neither a frame nor a middleware can change how many children a
printer has. So for an outline whose printers all get along with their children
there is no printing error, whatever the middlewares do to the frames and to the
texts.

What is left are overflows, and these do depend on the frames. A rendering goes
through many of them, and which ones is up to the middlewares, so `Reachable`
only says how a frame can come about. An overflow is `Raised` if it comes from
the generator of such a frame, from the lead of one level under its
configuration, or from a middleware of it. The middlewares of the library
overflow in one case only, where one of them needs the lead of the level in
force.

## Main definitions

* `Effect.Ends`, `Rendering.Prints`: How the runs of a computation can end.
* `Asks`: The ways in which children are asked for.
* `Reachable`: The frames that a rendering can come across.
* `Raised`: The overflows that a rendering can come across.
* `Layout.Obliging`, `Printer.Obliging`: Plans and printers that never give up on
  a certain number of children.
* `Layout.Sweeps`, `Printer.Sweeps`: Plans and printers that ask for each of their
  children once and in order, which is what all of them do.
* `Outline.Fits`, `Outline.Swept`: Outlines whose printers all have the children
  they need, and ask for each of them once.
* `Context.Miscounts`, `Miscounted`: The overflows of counting levels and columns.
* `Unfailing`: How printing ends if it does not fail.

## Theorems

* `ends_configure`, `ends_child`, `ends_transform`: What the three rounds of calls
  can end with.
* `prints_run`: Carrying out an obliging plan.
* `Printer.Combines.sweeps`, `Printer.Sweeps.obliging`: Printers that combine ask
  for each child once, and those that do so are obliging.
* `Outline.prints_placed`: Rendering an outline that fits, from any place.
* `Outline.unfailing_render`, `Outline.unfailing_print`: Printing an outline that
  fits, with any middlewares and with those of the library.
-/

namespace ClassForge

namespace Print

variable {σ μ α β : Type}

/-- The ways in which a printer asks for a child: at the level in force, at level
    one by adjusting the frame, or at level one by a rule. -/
inductive Asks : Rule → (Settings → Settings) → Prop where
  | keep : Asks .keep fun same => same
  | forced : Asks .keep (Settings.withSize 1)
  | deeper : Asks (.indentTo 1) fun same => same

section Runs

variable {raised : Overflow → Prop}

namespace Effect

/-- Whatever has been recorded before, an effect ends with a value of one kind or
    with an overflow of another. -/
structure Ends (raised : Overflow → Prop) (post : α → Prop) (effect : Effect σ α) : Prop where
  value : ∀ {record value later}, effect.run record = .ok (value, later) → post value
  overflow : ∀ {record cause}, effect.run record = .error cause → raised cause

variable {post : α → Prop} {effect : Effect σ α}

theorem ends_pure {value : α} (hpost : post value) :
    Ends raised post (pure value : Effect σ α) := by
  refine ⟨fun hrun => ?_, fun hrun => by cases hrun⟩
  cases hrun
  exact hpost

theorem ends_lift {result : Except Overflow α} (hvalue : ∀ value, result = .ok value → post value)
    (hcause : ∀ cause, result = .error cause → raised cause) :
    Ends raised post (liftM result : Effect σ α) := by
  cases result with
  | ok value => exact ends_pure (hvalue value rfl)
  | error cause =>
      refine ⟨fun hrun => (by cases hrun), fun hrun => ?_⟩
      cases hrun
      exact hcause cause rfl

theorem Ends.imp (h : Ends raised post effect) {after : α → Prop}
    (hafter : ∀ value, post value → after value) : Ends raised after effect :=
  ⟨fun hrun => hafter _ (h.value hrun), h.overflow⟩

theorem Ends.bind (h : Ends raised post effect) {next : α → Effect σ β} {after : β → Prop}
    (hnext : ∀ value, post value → Ends raised after (next value)) :
    Ends raised after (effect >>= next) := by
  constructor
  · intro record result later hrun
    rw [StateT.run_bind] at hrun
    cases hfirst : effect.run record with
    | error cause =>
        rw [hfirst] at hrun
        cases hrun
    | ok pair =>
        rw [hfirst] at hrun
        exact (hnext pair.1 (h.value hfirst)).value hrun
  · intro record cause hrun
    rw [StateT.run_bind] at hrun
    cases hfirst : effect.run record with
    | error first =>
        rw [hfirst] at hrun
        cases hrun
        exact h.overflow hfirst
    | ok pair =>
        rw [hfirst] at hrun
        exact (hnext pair.1 (h.value hfirst)).overflow hrun

/-- A loop that keeps an invariant ends with it. -/
theorem ends_foldlM {step : β → α → Effect σ β} {invariant : β → Prop} {items : List α}
    (hstep : ∀ item ∈ items, ∀ value, invariant value → Ends raised invariant (step value item))
    {value : β} (hvalue : invariant value) :
    Ends raised invariant (items.foldlM step value) := by
  induction items generalizing value with
  | nil => exact ends_pure hvalue
  | cons item items ih =>
      rw [List.foldlM_cons]
      refine (hstep item List.mem_cons_self value hvalue).bind fun next hnext => ?_
      exact ih (fun other hother => hstep other (List.mem_cons_of_mem item hother)) hnext

end Effect

namespace Rendering

/-- Whatever has been recorded before, a rendering ends with a value or with an
    overflow of a certain kind. It never ends with a printing error. -/
def Prints (raised : Overflow → Prop) (rendering : Rendering σ α) : Prop :=
  Effect.Ends raised (fun result => ∃ value, result = .ok value) rendering.run

variable {rendering : Rendering σ α}

theorem prints_pure (value : α) : Prints raised (pure value : Rendering σ α) :=
  Effect.ends_pure ⟨value, rfl⟩

theorem prints_overflow {cause : Overflow} (hcause : raised cause) :
    Prints raised (Rendering.overflow cause : Rendering σ α) := by
  refine ⟨fun hrun => (by cases hrun), fun hrun => ?_⟩
  cases hrun
  exact hcause

theorem Prints.bind (h : Prints raised rendering) {next : α → Rendering σ β}
    (hnext : ∀ value, Prints raised (next value)) : Prints raised (rendering >>= next) := by
  rw [Prints, ExceptT.run_bind]
  refine Effect.Ends.bind h fun result hresult => ?_
  rcases hresult with ⟨value, rfl⟩
  exact hnext value

/-- A rendering that starts with an effect goes on with what the effect ends
    with. -/
theorem prints_after {effect : Effect σ α} {post : α → Prop} (h : Effect.Ends raised post effect)
    {next : α → Rendering σ β} (hnext : ∀ value, post value → Prints raised (next value)) :
    Prints raised (liftM effect >>= next) := by
  have hrun : (liftM effect >>= next : Rendering σ β).run
      = effect >>= fun value => (next value).run := ExceptT.run_bind_lift effect next
  rw [Prints, hrun]
  exact h.bind hnext

theorem prints_lift {effect : Effect σ α} {post : α → Prop} (h : Effect.Ends raised post effect) :
    Prints raised (liftM effect : Rendering σ α) := by
  have hafter := prints_after h fun value _ => prints_pure (σ := σ) value
  rwa [bind_pure] at hafter

end Rendering

end Runs

section Frames

/-- The frames that a rendering from a root frame can come across. A middleware
    has to be there to change a frame, but what it may have recorded before is
    left open. -/
inductive Reachable (hooks : Hooks σ μ) (root : Context μ) : Context μ → Prop where
  | root : Reachable hooks root root
  /-- A printer renders against a frame. -/
  | enter {context : Context μ} (kind : Kind) (h : Reachable hooks root context) :
      Reachable hooks root (context.enter kind)
  /-- A middleware configures a frame. -/
  | configure {context : Context μ} {middleware : μ} {change : Change μ} {record later : σ}
      (h : Reachable hooks root context) (hmem : middleware ∈ context.middlewares)
      (hrun : (hooks.configure middleware context).run record = .ok (change, later)) :
      Reachable hooks root (context.apply change)
  /-- A child frame gets its state. -/
  | child {context : Context μ} {rule : Rule} {adjust : Settings → Settings}
      {state : IndentState} (h : Reachable hooks root context) (hasks : Asks rule adjust)
      (hstate : context.settings.generator context.state rule = .ok state) :
      Reachable hooks root (context.below state)
  /-- A middleware configures a child frame. -/
  | configureChild {context : Context μ} {middleware : μ} {rule : Rule} {change : Change μ}
      {record later : σ} (h : Reachable hooks root context)
      (hmem : middleware ∈ context.middlewares)
      (hrun : (hooks.configureChild middleware rule context).run record = .ok (change, later)) :
      Reachable hooks root (context.apply change)
  /-- The printer that asked has the last word on a child frame. -/
  | adjust {context : Context μ} {rule : Rule} {adjust : Settings → Settings}
      (h : Reachable hooks root context) (hasks : Asks rule adjust) :
      Reachable hooks root (context.adjust adjust)

/-- The overflows that a rendering from a root frame can come across. -/
inductive Raised (hooks : Hooks σ μ) (root : Context μ) : Overflow → Prop where
  /-- The generator of a frame has no state for a child frame. -/
  | state {context : Context μ} {rule : Rule} {adjust : Settings → Settings} {cause : Overflow}
      (h : Reachable hooks root context) (hasks : Asks rule adjust)
      (hstate : context.settings.generator context.state rule = .error cause) :
      Raised hooks root cause
  /-- One level has no lead under the configuration of a frame. -/
  | level {context : Context μ} {cause : Overflow} (h : Reachable hooks root context)
      (hlead : context.config.indent.process 1 = .error cause) : Raised hooks root cause
  /-- A middleware of a frame overflows when it configures the frame. -/
  | configure {context : Context μ} {middleware : μ} {record : σ} {cause : Overflow}
      (h : Reachable hooks root context) (hmem : middleware ∈ context.middlewares)
      (hrun : (hooks.configure middleware context).run record = .error cause) :
      Raised hooks root cause
  /-- A middleware of a child frame overflows when it configures the frame. -/
  | configureChild {context : Context μ} {middleware : μ} {rule : Rule} {record : σ}
      {cause : Overflow} (h : Reachable hooks root context)
      (hmem : middleware ∈ context.middlewares)
      (hrun : (hooks.configureChild middleware rule context).run record = .error cause) :
      Raised hooks root cause
  /-- A middleware of a frame overflows when it rewrites a text. -/
  | transform {context : Context μ} {middleware : μ} {text : String} {record : σ}
      {cause : Overflow} (h : Reachable hooks root context)
      (hmem : middleware ∈ context.middlewares)
      (hrun : (hooks.transform middleware context text).run record = .error cause) :
      Raised hooks root cause

variable {hooks : Hooks σ μ} {root context : Context μ}

theorem mem_apply {middleware : μ} (hmem : middleware ∈ context.middlewares) (change : Change μ) :
    middleware ∈ (context.apply change).middlewares :=
  List.mem_append_left change.install hmem

/-- A round of calls for the middlewares that the first frame has. Every later
    frame still has them, so each call is for a middleware of the frame it is
    shown. -/
theorem ends_round (call : μ → Context μ → Effect σ (Change μ)) {middlewares : List μ}
    (hreach : ∀ {frame : Context μ} {middleware change record later},
      Reachable hooks root frame → middleware ∈ frame.middlewares →
      (call middleware frame).run record = .ok (change, later) →
      Reachable hooks root (frame.apply change))
    (hraise : ∀ {frame : Context μ} {middleware record cause},
      Reachable hooks root frame → middleware ∈ frame.middlewares →
      (call middleware frame).run record = .error cause → Raised hooks root cause)
    {first : Context μ} (hfirst : Reachable hooks root first ∧ middlewares ⊆ first.middlewares) :
    Effect.Ends (Raised hooks root)
      (fun last => Reachable hooks root last ∧ middlewares ⊆ last.middlewares)
      (middlewares.foldlM
        (fun made middleware => do return made.apply (← call middleware made)) first) := by
  refine Effect.ends_foldlM (fun middleware hmem frame hframe => ?_) hfirst
  have hcall : Effect.Ends (Raised hooks root)
      (fun change => Reachable hooks root (frame.apply change)) (call middleware frame) :=
    ⟨hreach hframe.1 (hframe.2 hmem), hraise hframe.1 (hframe.2 hmem)⟩
  exact hcall.bind fun change hchange =>
    Effect.ends_pure ⟨hchange, fun _ hother => mem_apply (hframe.2 hother) change⟩

theorem ends_configure (h : Reachable hooks root context) :
    Effect.Ends (Raised hooks root) (Reachable hooks root) (context.configure hooks) :=
  (ends_round hooks.configure .configure .configure ⟨h, fun _ hmem => hmem⟩).imp
    fun _ hlast => hlast.1

theorem ends_child (h : Reachable hooks root context) {rule : Rule}
    {adjust : Settings → Settings} (hasks : Asks rule adjust) :
    Effect.Ends (Raised hooks root) (Reachable hooks root)
      (context.child hooks rule adjust) := by
  have hstate : Effect.Ends (Raised hooks root)
      (fun state => Reachable hooks root (context.below state))
      (liftM (context.settings.generator context.state rule) : Effect σ IndentState) :=
    Effect.ends_lift (fun _ => .child h hasks) (fun _ => .state h hasks)
  refine hstate.bind fun state hbelow => ?_
  have hmade := ends_round (fun middleware made => hooks.configureChild middleware rule made)
    .configureChild .configureChild ⟨hbelow, fun _ hmem => hmem⟩
  exact hmade.bind fun made hlast => Effect.ends_pure (.adjust hlast.1 hasks)

theorem ends_transform (h : Reachable hooks root context) (text : String) :
    Effect.Ends (Raised hooks root) (fun _ => True) (context.transform hooks text) :=
  Effect.ends_foldlM (fun _ hmem _ _ => ⟨fun _ => trivial, .transform h hmem⟩) trivial

end Frames

namespace Layout

/-- A plan that never gives up on `count` children that give their texts. It asks
    for no child that is not there, and it only overflows if one level has no
    lead. -/
inductive Obliging (indent : Indent) (count : Nat) : Layout α → Prop where
  | done (value : α) : Obliging indent count (.done value)
  | overflow {cause : Overflow} (hlead : indent.process 1 = .error cause) :
      Obliging indent count (.overflow cause)
  | ask {index : Nat} {rule : Rule} {adjust : Settings → Settings}
      {next : Except PrintError String → Layout α} (hindex : index < count)
      (hasks : Asks rule adjust) (hnext : ∀ text, Obliging indent count (next (.ok text))) :
      Obliging indent count (.ask index rule adjust next)

/-- A plan that asks for the children from `start` up to `stop` one after the
    other, each of them once, and gives up if and only if one of them fails. -/
inductive Sweeps (indent : Indent) (stop : Nat) : (start : Nat) → Layout α → Prop where
  | done (value : α) : Sweeps indent stop stop (.done value)
  | overflow {start : Nat} {cause : Overflow} (hlead : indent.process 1 = .error cause) :
      Sweeps indent stop start (.overflow cause)
  | ask {start : Nat} {rule : Rule} {adjust : Settings → Settings}
      {next : Except PrintError String → Layout α} (hstart : start < stop)
      (hasks : Asks rule adjust) (hfail : ∀ error, next (.error error) = .fail error)
      (hnext : ∀ text, Sweeps indent stop (start + 1) (next (.ok text))) :
      Sweeps indent stop start (.ask start rule adjust next)

variable {indent : Indent} {start middle stop : Nat}

theorem Sweeps.obliging {layout : Layout α} (h : layout.Sweeps indent stop start) :
    layout.Obliging indent stop := by
  induction h with
  | done value => exact .done value
  | overflow hlead => exact .overflow hlead
  | ask hstart hasks _ _ ih => exact .ask hstart hasks ih

theorem not_sweeps_fail {error : PrintError} :
    ¬ (Layout.fail error : Layout α).Sweeps indent stop start :=
  fun h => nomatch h

theorem Sweeps.bind {layout : Layout α} (h : layout.Sweeps indent middle start)
    {next : α → Layout β} (hle : middle ≤ stop)
    (hnext : ∀ value, (next value).Sweeps indent stop middle) :
    (layout.bind next).Sweeps indent stop start := by
  induction h with
  | done value => exact hnext value
  | overflow hlead => exact .overflow hlead
  | ask hstart hasks hfail _ ih =>
      refine .ask (Nat.lt_of_lt_of_le hstart hle) hasks (fun error => ?_) ih
      rw [hfail]
      rfl

theorem sweeps_child (start : Nat) {rule : Rule} {adjust : Settings → Settings}
    (hasks : Asks rule adjust) : (child start rule adjust).Sweeps indent (start + 1) start :=
  .ask (Nat.lt_succ_self start) hasks (fun _ => rfl) .done

theorem sweeps_childrenFrom (start number : Nat) :
    (childrenFrom (fun same => same) start number).Sweeps indent (start + number) start := by
  induction number generalizing start with
  | zero => exact .done []
  | succ number ih =>
      refine (sweeps_child start .keep).bind (by omega) fun text => ?_
      refine (ih (start + 1)).bind (by omega) fun texts => ?_
      rw [show start + (number + 1) = start + 1 + number by omega]
      exact .done (text :: texts)

theorem sweeps_texts {scope : Scope} (hcount : scope.children.length = stop) :
    scope.texts.Sweeps indent stop 0 := by
  have h : scope.texts.Sweeps indent (0 + scope.children.length) 0 := sweeps_childrenFrom 0 _
  rwa [Nat.zero_add, hcount] at h

theorem sweeps_ofSize {result : Except Overflow α}
    (hlead : ∀ cause, result = .error cause → indent.process 1 = .error cause) :
    (ofSize result).Sweeps indent stop stop := by
  cases result with
  | ok value => exact .done value
  | error cause => exact .overflow (hlead cause rfl)

end Layout

namespace Printer

/-- A printer that never gives up on `count` children that give their texts. -/
def Obliging (printer : Printer) (count : Nat) : Prop :=
  ∀ (scope : Scope) (view : View), scope.children.length = count →
    (printer.layout scope view).Obliging view.config.indent count

/-- A printer that, with `count` children, asks for each of them once and in
    order. -/
def Sweeps (printer : Printer) (count : Nat) : Prop :=
  ∀ (scope : Scope) (view : View), scope.children.length = count →
    (printer.layout scope view).Sweeps view.config.indent count 0

variable {printer : Printer} {count : Nat}

theorem Sweeps.obliging (h : printer.Sweeps count) : printer.Obliging count :=
  fun scope view hcount => (h scope view hcount).obliging

theorem sweeps_text (name content : String) : (text name content).Sweeps 0 :=
  fun _ _ _ => .done content

theorem Combines.sweeps {combine : List String → String} (h : printer.Combines count combine) :
    printer.Sweeps count := by
  intro scope view hcount
  rw [h scope view hcount]
  exact (Layout.sweeps_texts hcount).bind (Nat.le_refl _) fun parts => .done (combine parts)

/-- A printer that puts something around its only child, which is one level
    deep. -/
theorem sweeps_framed {frame : String → String}
    (hlayout : ∀ (scope : Scope) (view : View), printer.layout scope view
      = (scope.expect 1).bind fun _ =>
        (Layout.child 0 .keep (Settings.withSize 1)).bind fun body => .done (frame body)) :
    printer.Sweeps 1 := by
  intro scope view hcount
  rw [hlayout, Scope.expect_eq hcount]
  exact (Layout.sweeps_child 0 .forced).bind (Nat.le_refl _) fun body => .done (frame body)

/-- A printer with two parts in front of a body, which is one level deep. -/
theorem sweeps_signed {combine : String → String → String → String}
    (hlayout : ∀ (scope : Scope) (view : View), printer.layout scope view
      = (scope.expect 3).bind fun _ => (Layout.child 0).bind fun first =>
        (Layout.child 1).bind fun second => (Layout.child 2 (.indentTo 1)).bind fun body =>
          .done (combine first second body)) :
    printer.Sweeps 3 := by
  intro scope view hcount
  rw [hlayout, Scope.expect_eq hcount]
  exact (Layout.sweeps_child 0 .keep).bind (by omega) fun first =>
    (Layout.sweeps_child 1 .keep).bind (by omega) fun second =>
      (Layout.sweeps_child 2 .deeper).bind (by omega) fun body =>
        .done (combine first second body)

/-- A printer that lays out the texts of its children, for which it may need the
    lead of one level. -/
theorem sweeps_measured {lay : Indent → List String → Except Overflow String}
    (hlayout : ∀ (scope : Scope) (view : View), printer.layout scope view
      = scope.texts.bind fun parts => Layout.ofSize (lay view.config.indent parts))
    (hlead : ∀ indent parts cause, lay indent parts = .error cause →
      indent.process 1 = .error cause) (count : Nat) : printer.Sweeps count := by
  intro scope view hcount
  rw [hlayout]
  exact (Layout.sweeps_texts hcount).bind (Nat.le_refl _) fun parts =>
    Layout.sweeps_ofSize (hlead view.config.indent parts)

end Printer

section Rendering

variable {hooks : Hooks σ μ} {root context : Context μ} {children : List (Renderer σ μ)}

/-- Against every frame that can be reached, a renderer prints. -/
def Renderer.Prints (hooks : Hooks σ μ) (root : Context μ) (render : Renderer σ μ) : Prop :=
  ∀ frame, Reachable hooks root frame → Rendering.Prints (Raised hooks root) (render frame)

theorem prints_renderChild (h : Reachable hooks root context)
    (hchildren : ∀ render ∈ children, render.Prints hooks root) (kind : Kind) {index : Nat}
    (hindex : index < children.length) {rule : Rule} {adjust : Settings → Settings}
    (hasks : Asks rule adjust) :
    Rendering.Prints (Raised hooks root)
      (renderChild hooks kind children context index rule adjust) := by
  rw [renderChild, List.getElem?_eq_getElem hindex]
  exact Rendering.prints_after (ends_child h hasks) (hchildren _ (List.getElem_mem hindex))

/-- Carrying out an obliging plan, with children that print. -/
theorem prints_run (h : Reachable hooks root context)
    (hchildren : ∀ render ∈ children, render.Prints hooks root) (kind : Kind)
    {layout : Layout α} (hlayout : layout.Obliging context.config.indent children.length) :
    Rendering.Prints (Raised hooks root) (layout.run hooks kind children context) := by
  induction hlayout with
  | done value => exact Rendering.prints_pure value
  | overflow hlead => exact Rendering.prints_overflow (.level h hlead)
  | ask hindex hasks _ ih =>
      -- The plan would be told of an error, but there is none to be told of.
      have hchild := prints_renderChild h hchildren kind hindex hasks
      refine Rendering.prints_after hchild fun answer hanswer => ?_
      rcases hanswer with ⟨text, rfl⟩
      exact ih text

theorem prints_printer (h : Reachable hooks root context)
    (hchildren : ∀ render ∈ children, render.Prints hooks root) {printer : Printer}
    (hprinter : printer.Obliging children.length) {scope : Scope}
    (hcount : scope.children.length = children.length) :
    Rendering.Prints (Raised hooks root) (printer.render hooks scope children context) := by
  refine Rendering.prints_after (ends_configure (h.enter printer.kind)) fun frame hframe => ?_
  refine (prints_run hframe hchildren printer.kind (hprinter scope frame.view hcount)).bind ?_
  exact fun text => Rendering.prints_lift (ends_transform hframe text)

end Rendering

/-- Printing that ends with a text, or else with an overflow of a certain kind. -/
def Unfailing (raised : Overflow → Prop)
    (outcome : Except Overflow (Except PrintError String × σ)) : Prop :=
  (∃ text later, outcome = .ok (.ok text, later)) ∨ ∃ cause, outcome = .error cause ∧ raised cause

theorem unfailing_of_prints {raised : Overflow → Prop} {rendering : Rendering σ String}
    (h : rendering.Prints raised) (record : σ) : Unfailing raised (rendering.run.run record) := by
  cases hrun : rendering.run.run record with
  | error cause => exact .inr ⟨cause, rfl, h.overflow hrun⟩
  | ok pair =>
      rcases pair with ⟨result, later⟩
      rcases h.value hrun with ⟨text, rfl⟩
      exact .inl ⟨text, later, rfl⟩

/-- The overflows of counting levels and columns on a frame: the lead of its own
    level, the lead of one level, and the states of its child frames. -/
def Context.Miscounts (context : Context μ) (cause : Overflow) : Prop :=
  context.lead = .error cause ∨ context.config.indent.process 1 = .error cause ∨
    ∃ rule adjust, Asks rule adjust ∧
      context.settings.generator context.state rule = .error cause

theorem eq_error_of_map {result : Except Overflow α} {change : α → β} {cause : Overflow}
    (h : result.map change = .error cause) : result = .error cause := by
  cases result with
  | error other =>
      cases h
      rfl
  | ok value => cases h

theorem Context.lead_of_indentText {context : Context μ} {text : String} {cause : Overflow}
    (h : context.indentText text = .error cause) : context.lead = .error cause := by
  unfold Context.indentText at h
  split at h
  · exact eq_error_of_map h
  · cases h

/-- A frame that a rendering with the middlewares of the library can come across
    overflows in counting. -/
def Miscounted (root : Context Middleware) (cause : Overflow) : Prop :=
  ∃ context, Reachable Middleware.hooks root context ∧ context.Miscounts cause

namespace Middleware

variable {middleware : Middleware} {context : Context Middleware} {record : Journal}
  {cause : Overflow}

theorem configure_run_ne (middleware : Middleware) (context : Context Middleware)
    (record : Journal) (cause : Overflow) :
    (configure middleware context).run record ≠ .error cause := by
  cases middleware <;> exact fun hrun => by cases hrun

theorem configureChild_run_ne (middleware : Middleware) (rule : Rule)
    (context : Context Middleware) (record : Journal) (cause : Overflow) :
    (configureChild middleware rule context).run record ≠ .error cause := by
  cases middleware <;> exact fun hrun => by cases hrun

/-- Rewriting a text only overflows if the level in force has no lead. -/
theorem lead_of_transform_run {text : String}
    (hrun : (transform middleware context text).run record = .error cause) :
    context.lead = .error cause := by
  cases middleware with
  | indent =>
      have hends : Effect.Ends (fun cause => context.lead = .error cause) (fun _ => True)
          (liftM (context.indentText text) : Effect Journal String) :=
        Effect.ends_lift (fun _ _ => trivial) (fun _ => Context.lead_of_indentText)
      exact hends.overflow hrun
  | _ => cases hrun

/-- The middlewares of the library overflow for no other reason than
    counting. -/
theorem miscounted_of_raised {root : Context Middleware} (h : Raised hooks root cause) :
    Miscounted root cause := by
  cases h with
  | state h hasks hstate => exact ⟨_, h, .inr (.inr ⟨_, _, hasks, hstate⟩)⟩
  | level h hlead => exact ⟨_, h, .inr (.inl hlead)⟩
  | configure _ _ hrun => exact absurd hrun (configure_run_ne _ _ _ _)
  | configureChild _ _ hrun => exact absurd hrun (configureChild_run_ne _ _ _ _ _)
  | transform h _ hrun => exact ⟨_, h, .inl (lead_of_transform_run hrun)⟩

end Middleware

namespace Outline

/-- An outline whose printers never give up on the children they have. -/
inductive Fits : Outline → Prop where
  | node {printer : Printer} {children : List Outline}
      (hprinter : printer.Obliging children.length) (hchildren : ∀ child ∈ children, child.Fits) :
      Fits (.node printer children)

/-- An outline whose printers ask for each of their children once and in
    order. -/
inductive Swept : Outline → Prop where
  | node {printer : Printer} {children : List Outline}
      (hprinter : printer.Sweeps children.length) (hchildren : ∀ child ∈ children, child.Swept) :
      Swept (.node printer children)

variable {outline : Outline} {children : List Outline} {printer : Printer}

theorem Swept.fits (h : outline.Swept) : outline.Fits := by
  induction h with
  | node hprinter _ ih => exact .node hprinter.obliging ih

theorem swept_one {only : Outline} (hprinter : printer.Sweeps 1) (honly : only.Swept) :
    (node printer [only]).Swept :=
  .node hprinter (List.forall_mem_singleton.mpr honly)

theorem swept_two {first second : Outline} (hprinter : printer.Sweeps 2) (hfirst : first.Swept)
    (hsecond : second.Swept) : (node printer [first, second]).Swept :=
  .node hprinter (List.forall_mem_cons.mpr ⟨hfirst, List.forall_mem_singleton.mpr hsecond⟩)

theorem swept_three {first second third : Outline} (hprinter : printer.Sweeps 3)
    (hfirst : first.Swept) (hsecond : second.Swept) (hthird : third.Swept) :
    (node printer [first, second, third]).Swept :=
  .node hprinter (List.forall_mem_cons.mpr
    ⟨hfirst, List.forall_mem_cons.mpr ⟨hsecond, List.forall_mem_singleton.mpr hthird⟩⟩)

theorem swept_text (name content : String) : (text name content).Swept :=
  .node (Printer.sweeps_text name content) (fun _ hmem => absurd hmem List.not_mem_nil)

theorem swept_separated (separator : String) (h : ∀ child ∈ children, child.Swept) :
    (separated separator children).Swept :=
  .node (Printer.combines_join _ _).sweeps h

theorem swept_words {ι : Type} (name separator : String) (word : ι → String) (items : List ι) :
    (separated separator (items.map fun item => text name (word item))).Swept := by
  refine swept_separated separator fun child hmem => ?_
  rcases List.mem_map.mp hmem with ⟨item, _, rfl⟩
  exact swept_text name (word item)

theorem swept_sequence (h : ∀ child ∈ children, child.Swept) : (sequence children).Swept :=
  .node (Printer.combines_sequence _).sweeps h

theorem swept_body (h : ∀ child ∈ children, child.Swept) : (body children).Swept :=
  swept_one Printer.combines_passThrough.sweeps (swept_sequence h)

theorem sweeps_file : (Printer.highOrder fun scope _ => do
    return "\n".intercalate (← scope.texts)).Sweeps 1 := by
  have hcombines : (Printer.highOrder fun scope _ => do
      return "\n".intercalate (← scope.texts)).Combines 1 "\n".intercalate := fun _ _ _ => rfl
  exact hcombines.sweeps

theorem swept_file (h : ∀ child ∈ children, child.Swept) : (file children).Swept :=
  swept_one sweeps_file (swept_sequence h)

/-- The renderers of siblings are those of outlines that stand somewhere. -/
theorem exists_placed_of_mem_renderers {hooks : Hooks σ μ} {parentKind : Option Kind} {base : Nat}
    {render : Renderer σ μ}
    (hmem : render ∈ Tree.renderers hooks (placedAll parentKind base children)) :
    ∃ child ∈ children, ∃ start, render = (child.placed parentKind start).render hooks := by
  rw [Tree.renderers_eq_map] at hmem
  rcases List.mem_map.mp hmem with ⟨tree, htree, rfl⟩
  rcases exists_placed_of_mem htree with ⟨child, hchild, start, rfl⟩
  exact ⟨child, hchild, start, rfl⟩

theorem length_renderers (hooks : Hooks σ μ) (trees : List Tree) :
    (Tree.renderers hooks trees).length = trees.length := by
  rw [Tree.renderers_eq_map, List.length_map]

/-- An outline that fits prints from any place of a tree. -/
theorem prints_placed (h : outline.Fits) (hooks : Hooks σ μ) (root : Context μ)
    (parentKind : Option Kind) (base : Nat) :
    Renderer.Prints hooks root ((outline.placed parentKind base).render hooks) := by
  induction h generalizing parentKind base with
  | @node printer children hprinter _ ih =>
      intro frame hframe
      have hcount : (Tree.renderers hooks
          (placedAll (some printer.kind) (base + 1) children)).length = children.length := by
        rw [length_renderers, length_placedAll]
      rw [placed, Tree.render]
      refine prints_printer hframe (fun render hmem => ?_) (by rwa [hcount]) ?_
      · rcases exists_placed_of_mem_renderers hmem with ⟨child, hchild, start, rfl⟩
        exact ih child hchild _ start
      · rw [hcount, Tree.scope, List.length_map, length_placedAll]

/-- Printing an outline that fits never fails, whatever the middlewares do. -/
theorem unfailing_render (h : outline.Fits) (hooks : Hooks σ μ) (root : Context μ) (record : σ) :
    Unfailing (Raised hooks root) ((outline.tree.render hooks root).run.run record) := by
  rw [tree_eq_placed]
  exact unfailing_of_prints (prints_placed h hooks root none 0 root .root) record

/-- With the middlewares of the library there are no overflows but those of
    counting. -/
theorem unfailing_print (h : outline.Fits) (root : Context Middleware) :
    Unfailing (Miscounted root) (outline.print root) := by
  rcases unfailing_render h Middleware.hooks root Journal.empty with htext | ⟨cause, hrun, hraised⟩
  · exact .inl htext
  · exact .inr ⟨cause, hrun, Middleware.miscounted_of_raised hraised⟩

end Outline

end Print

end ClassForge
