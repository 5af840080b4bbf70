import Mathlib.Data.List.Forall2
import ClassForge.Proofs.Print.Agreement

/-!
# Middlewares that do not Interfere

A middleware that leaves frames and texts as they are should make no difference to
anyone else, wherever it stands in a list. But its presence is not without a trace:
the lists of all frames below are longer, middlewares that are installed later
stand further back, and every round has more calls. So two renderings, one with
such quiet middlewares and one without, never go through the same frames.

They go through frames that look the same. `Context.sight` is what there is to see
of a frame apart from the middlewares, and a frame of the one rendering is always
`Beside` a frame of the other, with the same sight and with quiet middlewares woven
into its list. Every step keeps that up, provided that nobody looks at the lists:
neither the other middlewares nor the printers. What middlewares record may differ
as well, and how far it may differ is left open here.

## Main definitions

* `Woven`: A list with further items between those of another.
* `EndsAlike`: Runs that end with the same overflow, or with values and records that
  go together.
* `Context.sight`, `Printer.Blind`: A frame without its middlewares, and printers
  that see no more than that.
* `LeavesFrames`, `Undisturbed`: What quiet middlewares and the others have to observe.
* `Context.Beside`, `Round.Beside`: Frames and rounds of the two renderings.

## Theorems

* `Context.beside_shownTo`, `Context.endsAlike_rewrittenBy`: Rounds of calls.
* `Tree.endsAlike_render`: Quiet middlewares make no difference to the outcome.
* `Tree.beside_rounds`: Nor do they to what the other middlewares are shown.
-/

namespace ClassForge

namespace Print

variable {σ μ α β γ δ : Type}

/-- The first list is the second with further items between, each of which is
    `extra`. Items that stand for one another are the `same`. -/
inductive Woven (extra : α → Prop) (same : α → β → Prop) : List α → List β → Prop where
  | nil : Woven extra same [] []
  | extra {item : α} {items : List α} {others : List β} (hitem : extra item)
      (h : Woven extra same items others) : Woven extra same (item :: items) others
  | same {item : α} {other : β} {items : List α} {others : List β} (hsame : same item other)
      (h : Woven extra same items others) : Woven extra same (item :: items) (other :: others)

namespace Woven

variable {extra : α → Prop} {same : α → β → Prop}

theorem of_extra {items : List α} (h : ∀ item ∈ items, extra item) :
    Woven extra same items [] := by
  induction items with
  | nil => exact .nil
  | cons item items ih =>
      rw [List.forall_mem_cons] at h
      exact .extra h.1 (ih h.2)

theorem append {first later : List α} {others laters : List β} (h : Woven extra same first others)
    (hlater : Woven extra same later laters) :
    Woven extra same (first ++ later) (others ++ laters) := by
  induction h with
  | nil => exact hlater
  | extra hitem _ ih => exact .extra hitem ih
  | same hsame _ ih => exact .same hsame ih

end Woven

/-- Two runs that end alike: with the same overflow, or with values that go together
    and records that agree. -/
inductive EndsAlike (same : α → β → Prop) (agree : σ → σ → Prop) :
    Except Overflow (α × σ) → Except Overflow (β × σ) → Prop where
  | ok {value : α} {other : β} {record another : σ} (hvalue : same value other)
      (hrecord : agree record another) :
      EndsAlike same agree (.ok (value, record)) (.ok (other, another))
  | overflow (cause : Overflow) : EndsAlike same agree (.error cause) (.error cause)

namespace EndsAlike

variable {same : α → β → Prop} {after : γ → δ → Prop} {agree : σ → σ → Prop}
  {run : Except Overflow (α × σ)} {plain : Except Overflow (β × σ)}

theorem cases (h : EndsAlike same agree run plain) :
    (∃ value other record another, run = .ok (value, record) ∧ plain = .ok (other, another) ∧
      same value other ∧ agree record another) ∨
    ∃ cause, run = .error cause ∧ plain = .error cause := by
  cases h with
  | ok hvalue hrecord => exact .inl ⟨_, _, _, _, rfl, rfl, hvalue, hrecord⟩
  | overflow cause => exact .inr ⟨cause, rfl, rfl⟩

theorem bind (h : EndsAlike same agree run plain) {next : α × σ → Except Overflow (γ × σ)}
    {plainNext : β × σ → Except Overflow (δ × σ)}
    (hnext : ∀ value other record another, same value other → agree record another →
      EndsAlike after agree (next (value, record)) (plainNext (other, another))) :
    EndsAlike after agree (run.bind next) (plain.bind plainNext) := by
  cases h with
  | ok hvalue hrecord => exact hnext _ _ _ _ hvalue hrecord
  | overflow cause => exact .overflow cause

theorem imp {weaker : α → β → Prop} (h : EndsAlike same agree run plain)
    (himp : ∀ value other, same value other → weaker value other) :
    EndsAlike weaker agree run plain := by
  cases h with
  | ok hvalue hrecord => exact .ok (himp _ _ hvalue) hrecord
  | overflow cause => exact .overflow cause

theorem map (h : EndsAlike same agree run plain) {change : α → γ} {plainChange : β → δ}
    (hchange : ∀ value other, same value other → after (change value) (plainChange other)) :
    EndsAlike after agree (run.map fun pair => (change pair.1, pair.2))
      (plain.map fun pair => (plainChange pair.1, pair.2)) := by
  cases h with
  | ok hvalue hrecord => exact .ok (hchange _ _ hvalue) hrecord
  | overflow cause => exact .overflow cause

end EndsAlike

/-- A frame without its middlewares. -/
def Frame.sight (frame : Frame μ) : Frame Unit := ⟨frame.settings, [], frame.printer⟩

/-- All there is to see of a context apart from the middlewares: the settings and
    the printers of its frames. -/
def Context.sight (context : Context μ) : View :=
  ⟨context.frame.sight, context.enclosing.map Frame.sight⟩

/-- A printer that takes no notice of the middlewares. -/
def Printer.Blind (printer : Printer) : Prop :=
  ∀ (scope : Scope) (view : View), printer.layout scope view = printer.layout scope view.sight

theorem Context.sight_view (context : Context μ) : context.view.sight = context.sight := by
  rw [sight, sight, view, List.map_map]
  rfl

theorem Context.settings_eq_of_sight {context other : Context μ}
    (h : context.sight = other.sight) : context.settings = other.settings :=
  congrArg (fun view : View => view.settings) h

theorem Printer.Blind.layout_eq {printer : Printer} (h : printer.Blind) (scope : Scope)
    {context other : Context μ} (hsight : context.sight = other.sight) :
    printer.layout scope context.view = printer.layout scope other.view := by
  rw [h scope context.view, h scope other.view, Context.sight_view, Context.sight_view, hsight]

section Frames

variable (quiet discreet : μ → Prop) (agree : σ → σ → Prop)

/-- Quiet middlewares woven into a list of discreet ones. -/
abbrev Joined : List μ → List μ → Prop :=
  Woven quiet fun middleware other => middleware = other ∧ discreet other

/-- A hook that leaves the settings of a frame alone. It installs no others than
    quiet middlewares, and records nothing that matters. -/
def LeavesFrames (hook : Context μ → Effect σ (Change μ)) : Prop :=
  ∀ context record, ∃ installs later,
    (hook context).run record = .ok (⟨context.settings, installs⟩, later) ∧
    (∀ installed ∈ installs, quiet installed) ∧
    ∀ another, agree record another → agree later another

/-- Hooks that change frames, with quiet middlewares and without. A discreet
    middleware goes by the sight of a frame, and what it installs differs by quiet ones
    at most. -/
structure UndisturbedFrames (change plain : μ → Context μ → Effect σ (Change μ)) : Prop where
  of_quiet : ∀ {middleware}, quiet middleware → LeavesFrames quiet agree (change middleware)
  of_discreet : ∀ {middleware}, discreet middleware → ∀ {context other record another},
    context.sight = other.sight → agree record another →
    EndsAlike (fun made expected => made.settings = expected.settings ∧
        Joined quiet discreet made.install expected.install) agree
      ((change middleware context).run record) ((plain middleware other).run another)

/-- What the middlewares do in two renderings, one of which has quiet middlewares
    besides: in its root frame, or installed by quiet or by other middlewares. Quiet
    ones leave frames and texts as they are. The others go by the sight of a frame,
    do the same in both renderings, and may install further quiet ones in the
    first. -/
structure Undisturbed (hooks plain : Hooks σ μ) : Prop where
  configure : UndisturbedFrames quiet discreet agree hooks.configure plain.configure
  configureChild : ∀ rule, UndisturbedFrames quiet discreet agree
    (fun middleware context => hooks.configureChild middleware rule context)
    (fun middleware context => plain.configureChild middleware rule context)
  quiet_transform : ∀ {middleware}, quiet middleware → ∀ context text record, ∃ later,
    (hooks.transform middleware context text).run record = .ok (text, later) ∧
    ∀ another, agree record another → agree later another
  discreet_transform : ∀ {middleware}, discreet middleware →
    ∀ {context other record another} text, context.sight = other.sight → agree record another →
    EndsAlike (· = ·) agree ((hooks.transform middleware context text).run record)
      ((plain.transform middleware other text).run another)

/-- Two frames that look the same and differ in quiet middlewares only. -/
structure Context.Beside (context other : Context μ) : Prop where
  sight_eq : context.sight = other.sight
  joined : Joined quiet discreet context.middlewares other.middlewares

/-- Calls of one middleware that show it the same. -/
structure Call.SameSight (call other : Call μ) : Prop where
  hook_eq : call.hook = other.hook
  middleware_eq : call.middleware = other.middleware
  sight_eq : call.context.sight = other.context.sight

/-- Rounds about the same frame. Calls of quiet middlewares apart, the same calls are
    made in them, in the same order. -/
structure Round.Beside (round other : Round μ) : Prop where
  place_eq : round.place = other.place
  node_eq : round.node = other.node
  stage_eq : round.stage = other.stage
  joined : Joined quiet discreet round.roster other.roster
  calls : Woven (fun call => quiet call.middleware) Call.SameSight round.calls other.calls

end Frames

variable {quiet discreet : μ → Prop} {agree : σ → σ → Prop}

theorem Joined.refl {others : List μ} (h : ∀ other ∈ others, discreet other) :
    Joined quiet discreet others others := by
  induction others with
  | nil => exact .nil
  | cons other others ih =>
      rw [List.forall_mem_cons] at h
      exact .same ⟨rfl, h.1⟩ (ih h.2)

namespace Context

variable {context other : Context μ}

/-- Middlewares that are inserted at a place of the list. -/
theorem beside_insert (settings : Settings) (printer : Option Kind) (enclosing : List (Frame μ))
    (before after : List μ) {inserted : List μ}
    (hothers : ∀ other ∈ before ++ after, discreet other)
    (hinserted : ∀ middleware ∈ inserted, quiet middleware) :
    Beside quiet discreet ⟨⟨settings, before ++ inserted ++ after, printer⟩, enclosing⟩
      ⟨⟨settings, before ++ after, printer⟩, enclosing⟩ := by
  rw [List.forall_mem_append] at hothers
  have hfront := (Joined.refl hothers.1).append (Woven.of_extra hinserted)
  rw [List.append_nil] at hfront
  exact ⟨rfl, hfront.append (Joined.refl hothers.2)⟩

theorem Beside.enter (h : context.Beside quiet discreet other) (kind : Kind) :
    (context.enter kind).Beside quiet discreet (other.enter kind) :=
  ⟨congrArg (fun view : View => view.enter kind) h.sight_eq, h.joined⟩

theorem Beside.below (h : context.Beside quiet discreet other) (state : IndentState) :
    (context.below state).Beside quiet discreet (other.below state) :=
  ⟨congrArg (fun view : View => view.below state) h.sight_eq, h.joined⟩

theorem Beside.adjust (h : context.Beside quiet discreet other) (change : Settings → Settings) :
    (context.adjust change).Beside quiet discreet (other.adjust change) :=
  ⟨congrArg (fun view : View => view.adjust change) h.sight_eq, h.joined⟩

theorem Beside.apply_quiet (h : context.Beside quiet discreet other) {installs : List μ}
    (hinstalls : ∀ installed ∈ installs, quiet installed) :
    (context.apply ⟨context.settings, installs⟩).Beside quiet discreet other := by
  refine ⟨h.sight_eq, ?_⟩
  have hlonger := h.joined.append (Woven.of_extra hinstalls)
  rwa [List.append_nil] at hlonger

theorem Beside.apply (h : context.Beside quiet discreet other) {made expected : Change μ}
    (hsettings : made.settings = expected.settings)
    (hinstalls : Joined quiet discreet made.install expected.install) :
    (context.apply made).Beside quiet discreet (other.apply expected) := by
  refine ⟨?_, h.joined.append hinstalls⟩
  change context.sight.adjust (fun _ => made.settings)
    = other.sight.adjust fun _ => expected.settings
  rw [h.sight_eq, hsettings]

end Context

section FrameRounds

variable {change plain : μ → Context μ → Effect σ (Change μ)} {middlewares others : List μ}
  {first other : Context μ} {record another : σ}

/-- A frame that is shown to middlewares in turn, with quiet ones among them and
    without. -/
theorem Context.beside_shownTo (h : UndisturbedFrames quiet discreet agree change plain)
    (hlist : Joined quiet discreet middlewares others) (hframe : first.Beside quiet discreet other)
    (hrecord : agree record another) :
    EndsAlike (Beside quiet discreet) agree ((first.shownTo change middlewares).run record)
      ((other.shownTo plain others).run another) := by
  induction hlist generalizing first other record another with
  | nil => exact .ok hframe hrecord
  | extra hquiet _ ih =>
      -- Only the first rendering has a call to make here.
      rcases h.of_quiet hquiet first record with ⟨installs, later, hrun, hinstalls, hagree⟩
      rw [run_shownTo_cons, hrun]
      exact ih (hframe.apply_quiet hinstalls) (hagree another hrecord)
  | same hsame _ ih =>
      rcases hsame with ⟨rfl, hdiscreet⟩
      rw [run_shownTo_cons, run_shownTo_cons]
      refine (h.of_discreet hdiscreet hframe.sight_eq hrecord).bind ?_
      exact fun made expected _ _ hmade hlater => ih (hframe.apply hmade.1 hmade.2) hlater

theorem woven_frameCalls (hook : Hook) (h : UndisturbedFrames quiet discreet agree change plain)
    (hlist : Joined quiet discreet middlewares others) (hframe : first.Beside quiet discreet other)
    (hrecord : agree record another) :
    Woven (fun call => quiet call.middleware) Call.SameSight
      (frameCalls hook change middlewares first record)
      (frameCalls hook plain others other another) := by
  induction hlist generalizing first other record another with
  | nil => exact .nil
  | extra hquiet _ ih =>
      rcases h.of_quiet hquiet first record with ⟨installs, later, hrun, hinstalls, hagree⟩
      rw [frameCalls_cons hrun]
      exact .extra hquiet (ih (hframe.apply_quiet hinstalls) (hagree another hrecord))
  | same hsame _ ih =>
      rcases hsame with ⟨rfl, hdiscreet⟩
      rcases (h.of_discreet hdiscreet hframe.sight_eq hrecord).cases with
        ⟨made, expected, later, last, hrun, hplain, hmade, hlater⟩ | ⟨cause, hrun, hplain⟩
      · rw [frameCalls_cons hrun, frameCalls_cons hplain]
        exact .same ⟨rfl, rfl, hframe.sight_eq⟩ (ih (hframe.apply hmade.1 hmade.2) hlater)
      · -- An overflow ends both rounds, and at the same call.
        rw [frameCalls, frameCalls, hrun, hplain]
        exact .same ⟨rfl, rfl, hframe.sight_eq⟩ .nil

end FrameRounds

section TextRounds

variable {hooks plain : Hooks σ μ} {context other : Context μ} {middlewares others : List μ}
  {text : String} {record another : σ}

theorem Context.run_rewrittenBy_cons (hooks : Hooks σ μ) (context : Context μ) (middleware : μ)
    (middlewares : List μ) (text : String) (record : σ) :
    (context.rewrittenBy hooks (middleware :: middlewares) text).run record
      = ((hooks.transform middleware context text).run record).bind fun pair =>
        (context.rewrittenBy hooks middlewares pair.1).run pair.2 := by
  rw [rewrittenBy, List.foldlM_cons, StateT.run_bind]
  rfl

/-- A text that is rewritten by middlewares in turn, with quiet ones among them and
    without. -/
theorem Context.endsAlike_rewrittenBy (h : Undisturbed quiet discreet agree hooks plain)
    (hlist : Joined quiet discreet middlewares others) (hsight : context.sight = other.sight)
    (hrecord : agree record another) :
    EndsAlike (· = ·) agree ((context.rewrittenBy hooks middlewares text).run record)
      ((other.rewrittenBy plain others text).run another) := by
  induction hlist generalizing text record another with
  | nil => exact .ok rfl hrecord
  | extra hquiet _ ih =>
      rcases h.quiet_transform hquiet context text record with ⟨later, hrun, hagree⟩
      rw [run_rewrittenBy_cons, hrun]
      exact ih (hagree another hrecord)
  | same hsame _ ih =>
      rcases hsame with ⟨rfl, hdiscreet⟩
      rw [run_rewrittenBy_cons, run_rewrittenBy_cons]
      refine (h.discreet_transform hdiscreet text hsight hrecord).bind ?_
      rintro rewritten _ _ _ rfl hlater
      exact ih hlater

theorem woven_textCalls (h : Undisturbed quiet discreet agree hooks plain)
    (hlist : Joined quiet discreet middlewares others) (hsight : context.sight = other.sight)
    (hrecord : agree record another) :
    Woven (fun call => quiet call.middleware) Call.SameSight
      (textCalls hooks context middlewares text record)
      (textCalls plain other others text another) := by
  induction hlist generalizing text record another with
  | nil => exact .nil
  | extra hquiet _ ih =>
      rcases h.quiet_transform hquiet context text record with ⟨later, hrun, hagree⟩
      rw [textCalls, hrun]
      exact .extra hquiet (ih (hagree another hrecord))
  | same hsame _ ih =>
      rcases hsame with ⟨rfl, hdiscreet⟩
      rw [textCalls, textCalls]
      refine .same ⟨rfl, rfl, hsight⟩ ?_
      rcases (h.discreet_transform hdiscreet text hsight hrecord).cases with
        ⟨rewritten, _, later, last, hrun, hplain, rfl, hlater⟩ | ⟨cause, hrun, hplain⟩
      · rw [hrun, hplain]
        exact ih hlater
      · rw [hrun, hplain]
        exact .nil

end TextRounds

section Renderings

variable {hooks plain : Hooks σ μ} {context other : Context μ} {record another : σ}
  {trees : List Tree} {kind : Kind} {index : Nat} {rule : Rule} {adjust : Settings → Settings}
  {place : List Step}

theorem Context.beside_configure (h : Undisturbed quiet discreet agree hooks plain)
    (hframe : context.Beside quiet discreet other) (hrecord : agree record another) :
    EndsAlike (Beside quiet discreet) agree ((context.configure hooks).run record)
      ((other.configure plain).run another) :=
  beside_shownTo h.configure hframe.joined hframe hrecord

theorem Context.beside_child (h : Undisturbed quiet discreet agree hooks plain)
    (hframe : context.Beside quiet discreet other) (hrecord : agree record another) :
    EndsAlike (Beside quiet discreet) agree ((context.child hooks rule adjust).run record)
      ((other.child plain rule adjust).run another) := by
  rw [run_child, run_child, Context.state, Context.state, settings_eq_of_sight hframe.sight_eq]
  cases other.settings.generator other.settings.state rule with
  | error cause => exact .overflow cause
  | ok state =>
      exact (beside_shownTo (h.configureChild rule) hframe.joined (hframe.below state) hrecord).map
        fun _ _ hmade => hmade.adjust adjust

/-- What a tree renders to, with quiet middlewares and without. -/
def Tree.Unmoved (quiet discreet : μ → Prop) (agree : σ → σ → Prop) (hooks plain : Hooks σ μ)
    (tree : Tree) : Prop :=
  ∀ {context other record another}, context.Beside quiet discreet other → agree record another →
    EndsAlike (· = ·) agree ((tree.render hooks context).run.run record)
      ((tree.render plain other).run.run another)

/-- What the middlewares are shown while a tree is rendered, with quiet ones and
    without. -/
def Tree.Unnoticed (quiet discreet : μ → Prop) (agree : σ → σ → Prop) (hooks plain : Hooks σ μ)
    (tree : Tree) : Prop :=
  ∀ {place context other record another}, context.Beside quiet discreet other →
    agree record another →
    List.Forall₂ (Round.Beside quiet discreet) (tree.rounds hooks place context record)
      (tree.rounds plain place other another)

theorem endsAlike_renderChild (h : Undisturbed quiet discreet agree hooks plain)
    (hchildren : ∀ child ∈ trees, child.Unmoved quiet discreet agree hooks plain)
    (hframe : context.Beside quiet discreet other) (hrecord : agree record another) :
    EndsAlike (· = ·) agree
      ((renderChild hooks kind (Tree.renderers hooks trees) context index rule adjust).run.run
        record)
      ((renderChild plain kind (Tree.renderers plain trees) other index rule adjust).run.run
        another) := by
  rw [renderChild, renderChild, Tree.renderers_eq_map, Tree.renderers_eq_map, List.length_map,
    List.length_map, List.getElem?_map, List.getElem?_map]
  cases htree : trees[index]? with
  | none =>
      -- Either the error or the overflow, depending on the index alone.
      change EndsAlike _ _ (StateT.run (ExceptT.run (ite ..)) _)
        (StateT.run (ExceptT.run (ite ..)) _)
      split
      · exact .ok rfl hrecord
      · exact .overflow _
  | some tree =>
      change EndsAlike _ _
        ((liftM (context.child hooks rule adjust) >>= tree.render hooks).run.run record)
        ((liftM (other.child plain rule adjust) >>= tree.render plain).run.run another)
      rw [Rendering.run_after, Rendering.run_after]
      refine (Context.beside_child h hframe hrecord).bind ?_
      exact fun _ _ _ _ hmade hlater =>
        hchildren tree (List.mem_of_getElem? htree) hmade hlater

theorem Layout.endsAlike_run (h : Undisturbed quiet discreet agree hooks plain)
    (hchildren : ∀ child ∈ trees, child.Unmoved quiet discreet agree hooks plain)
    (hframe : context.Beside quiet discreet other) (hrecord : agree record another)
    (layout : Layout α) :
    EndsAlike (· = ·) agree
      ((layout.run hooks kind (Tree.renderers hooks trees) context).run.run record)
      ((layout.run plain kind (Tree.renderers plain trees) other).run.run another) := by
  induction layout generalizing record another with
  | done value => exact .ok rfl hrecord
  | fail error => exact .ok rfl hrecord
  | overflow cause => exact .overflow cause
  | ask index rule adjust next ih =>
      rw [Layout.run_ask, Layout.run_ask]
      refine (endsAlike_renderChild h hchildren hframe hrecord).bind ?_
      rintro answer _ _ _ rfl hlater
      exact ih answer hlater

/-- Quiet middlewares make no difference to the outcome of a rendering. -/
theorem Tree.endsAlike_render (h : Undisturbed quiet discreet agree hooks plain) {tree : Tree}
    (hblind : tree.Every Printer.Blind) : tree.Unmoved quiet discreet agree hooks plain := by
  induction hblind with
  | @node id parentKind printer children hprinter _ ih =>
      intro context other record another hframe hrecord
      rw [Tree.render, Tree.render, Printer.render, Printer.render, Rendering.run_after,
        Rendering.run_after]
      refine (Context.beside_configure h (hframe.enter printer.kind) hrecord).bind ?_
      intro frame plainFrame between middle hconfigured hbetween
      dsimp only
      -- A blind printer makes the same plan on both frames.
      rw [Rendering.run_bind, Rendering.run_bind,
        hprinter.layout_eq _ hconfigured.sight_eq]
      refine (Layout.endsAlike_run h ih hconfigured hbetween _).bind ?_
      rintro (error | text) _ later last rfl hlater
      · exact .ok rfl hlater
      · -- The list is that of the configured frame, with whatever was installed on it.
        dsimp only
        rw [Rendering.run_lift, Rendering.run_lift]
        have hrewritten : EndsAlike (· = ·) agree ((frame.transform hooks text).run later)
            ((plainFrame.transform plain text).run last) :=
          Context.endsAlike_rewrittenBy h hconfigured.joined hconfigured.sight_eq hlater
        exact hrewritten.map fun _ _ hfinal => congrArg Except.ok hfinal

theorem beside_askRounds (h : Undisturbed quiet discreet agree hooks plain)
    (hchildren : ∀ child ∈ trees, child.Unnoticed quiet discreet agree hooks plain)
    (hframe : context.Beside quiet discreet other) (hrecord : agree record another) :
    List.Forall₂ (Round.Beside quiet discreet)
      (askRounds hooks (Tree.reporters hooks trees) place context index rule adjust record)
      (askRounds plain (Tree.reporters plain trees) place other index rule adjust another) := by
  rw [askRounds, askRounds, Tree.reporters_eq_map, Tree.reporters_eq_map, List.getElem?_map,
    List.getElem?_map, Context.state, Context.state, Context.settings_eq_of_sight hframe.sight_eq]
  cases htree : trees[index]? with
  | none => exact .nil
  | some tree =>
      cases other.settings.generator other.settings.state rule with
      | error cause => exact .nil
      | ok state =>
          have hround : Round.Beside quiet discreet
              (childRound hooks tree.id place context rule state record)
              (childRound plain tree.id place other rule state another) :=
            ⟨rfl, rfl, rfl, hframe.joined, woven_frameCalls (.child rule) (h.configureChild rule)
              hframe.joined (hframe.below state) hrecord⟩
          refine .cons hround ?_
          rcases (Context.beside_child h hframe hrecord).cases with
            ⟨made, expected, later, last, hrun, hplain, hmade, hlater⟩ | ⟨cause, hrun, hplain⟩
          · rw [hrun, hplain]
            exact hchildren tree (List.mem_of_getElem? htree) hmade hlater
          · rw [hrun, hplain]
            exact .nil

theorem Layout.beside_rounds (h : Undisturbed quiet discreet agree hooks plain)
    (hunmoved : ∀ child ∈ trees, child.Unmoved quiet discreet agree hooks plain)
    (hchildren : ∀ child ∈ trees, child.Unnoticed quiet discreet agree hooks plain)
    (hframe : context.Beside quiet discreet other) (hrecord : agree record another)
    (layout : Layout α) {asked : Nat} :
    List.Forall₂ (Round.Beside quiet discreet)
      (layout.rounds hooks kind (Tree.renderers hooks trees) (Tree.reporters hooks trees) place
        context asked record)
      (layout.rounds plain kind (Tree.renderers plain trees) (Tree.reporters plain trees) place
        other asked another) := by
  induction layout generalizing asked record another with
  | done value => exact .nil
  | fail error => exact .nil
  | overflow cause => exact .nil
  | ask index rule adjust next ih =>
      rw [Layout.rounds, Layout.rounds]
      refine List.rel_append (beside_askRounds h hchildren hframe hrecord) ?_
      -- What is asked for next depends on the answer, so the answers have to be the same.
      rcases (endsAlike_renderChild h hunmoved hframe hrecord).cases with
        ⟨answer, _, later, last, hrun, hplain, rfl, hlater⟩ | ⟨cause, hrun, hplain⟩
      · rw [hrun, hplain]
        exact ih answer hlater
      · rw [hrun, hplain]
        exact .nil

/-- Nor do they make a difference to what the other middlewares are shown. -/
theorem Tree.beside_rounds (h : Undisturbed quiet discreet agree hooks plain) {tree : Tree}
    (hblind : tree.Every Printer.Blind) : tree.Unnoticed quiet discreet agree hooks plain := by
  induction hblind with
  | @node id parentKind printer children hprinter hchildren ih =>
      intro place context other record another hframe hrecord
      have hunmoved : ∀ child ∈ children, child.Unmoved quiet discreet agree hooks plain :=
        fun child hmem => Tree.endsAlike_render h (hchildren child hmem)
      have hentered := hframe.enter printer.kind
      rw [Tree.rounds, Tree.rounds, Printer.rounds, Printer.rounds]
      refine .cons ⟨rfl, rfl, rfl, hentered.joined,
        woven_frameCalls .configure h.configure hentered.joined hentered hrecord⟩ ?_
      -- A frame that cannot be set up ends both runs; otherwise the frames stay side by side.
      rcases (Context.beside_configure h hentered hrecord).cases with
        ⟨frame, plainFrame, between, middle, hrun, hplain, hconfigured, hbetween⟩ |
        ⟨cause, hrun, hplain⟩
      · rw [hrun, hplain]
        dsimp only
        rw [hprinter.layout_eq _ hconfigured.sight_eq]
        refine List.rel_append
          (Layout.beside_rounds h hunmoved ih hconfigured hbetween _) ?_
        rcases (Layout.endsAlike_run h hunmoved hconfigured hbetween
            (printer.layout _ plainFrame.view)).cases with
          ⟨_ | text, _, later, last, hrun, hplain, rfl, hlater⟩ | ⟨cause, hrun, hplain⟩
        · rw [hrun, hplain]
          exact .nil
        · rw [hrun, hplain]
          refine .cons ⟨rfl, rfl, rfl, hconfigured.joined, ?_⟩ .nil
          exact woven_textCalls h hconfigured.joined hconfigured.sight_eq hlater
        · rw [hrun, hplain]
          exact .nil
      · rw [hrun, hplain]
        exact .nil

end Renderings

end Print

end ClassForge
