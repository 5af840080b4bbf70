import ClassForge.Proofs.Code.Transparency
import ClassForge.Proofs.Php.Written
import ClassForge.Proofs.TypeScript.Written

/-!
# Printing with Onlookers

Printing starts from a root frame with a list of middlewares, and most of what is known
about printed texts is known for the list that a generator uses. Other lists matter as
well: an expression may be printed with no middleware at all, and code may be indented
without being traced.

Quiet middlewares make no difference anyway. Indentation does, but only to sequences of
statements. So where nothing is a sequence, as in an expression, a frame without
middlewares gives the same text as one that indents. To see this, indentation is taken
out of the hooks first. Without sequences that changes no rendering, and what is left
of the middleware then is quiet.

## Main definitions

* `Outline.Shows`: The text that printing an outline gives.
* `Printer.Inline`: Printers of anything but sequences.
* `Middleware.unindented`: The hooks of the library without indentation.
* `Middleware.Onlooker`: Middlewares that indent, and those that are quiet.

## Theorems

* `Tree.render_unindented`: Trees without sequences are rendered without indentation.
* `Outline.print_onlookers`: With onlookers they are printed as if there were none.
* `Outline.print_watched`: Indentation with quiet middlewares around it.
* `Php.print_expression`, `TypeScript.print_expression`: Printing an expression.
-/

namespace ClassForge

namespace Print

/-- Printing an outline from a root frame gives this text. -/
def Outline.Shows (outline : Outline) (root : Context Middleware) (text : String) : Prop :=
  (outline.print root).map Prod.fst = .ok (.ok text)

/-- A printer that takes no notice of the middlewares and puts no statements in a row. -/
structure Printer.Inline (printer : Printer) : Prop where
  blind : printer.Blind
  kind_ne : printer.kind ≠ .statementSequence

/-- Runs that end alike with the same values differ in their records only. -/
theorem EndsAlike.map_fst {σ α : Type} {agree : σ → σ → Prop}
    {run plain : Except Overflow (α × σ)} (h : EndsAlike (· = ·) agree run plain) :
    run.map Prod.fst = plain.map Prod.fst := by
  cases h with
  | ok hvalue _ =>
      subst hvalue
      rfl
  | overflow cause => rfl

namespace Middleware

/-- The hooks of the library, except that nothing is indented. -/
def unindented : Hooks Journal Middleware :=
  { hooks with
    transform := fun middleware context text =>
      match middleware with
      | .indent => pure text
      | other => transform other context text }

/-- A middleware that indents, or one that leaves frames and texts as they are. -/
inductive Onlooker : Middleware → Prop where
  | indent : Onlooker .indent
  | quiet {names : List String} {middleware : Middleware} (h : Quiet names middleware) :
      Onlooker middleware

/-- A hook that leaves frames to quiet middlewares leaves them to onlookers. -/
theorem Onlooker.leavesFrames {names : List String}
    {hook : Context Middleware → Effect Journal (Change Middleware)}
    (h : LeavesFrames (Quiet names) (Journal.SameEvents names) hook) :
    LeavesFrames Onlooker (fun _ _ => True) hook := by
  intro context journal
  rcases h context journal with ⟨installs, later, hrun, hinstalls, -⟩
  exact ⟨installs, later, hrun, fun installed hmem => .quiet (hinstalls installed hmem),
    fun _ _ => trivial⟩

/-- Once nothing is indented, all onlookers are quiet. -/
theorem undisturbed_unindented :
    Undisturbed Onlooker (fun _ => False) (fun _ _ => True) unindented unindented where
  configure := by
    refine ⟨fun h => ?_, fun hnone => hnone.elim⟩
    cases h with
    | indent => exact fun _ _ => ⟨[], _, rfl, List.forall_mem_nil _, fun _ _ => trivial⟩
    | @quiet names _ h => exact Onlooker.leavesFrames ((undisturbed names).configure.of_quiet h)
  configureChild rule := by
    refine ⟨fun h => ?_, fun hnone => hnone.elim⟩
    cases h with
    | indent => exact fun _ _ => ⟨[], _, rfl, List.forall_mem_nil _, fun _ _ => trivial⟩
    | @quiet names _ h =>
        exact Onlooker.leavesFrames (((undisturbed names).configureChild rule).of_quiet h)
  quiet_transform := by
    intro middleware h context text journal
    cases h with
    | indent => exact ⟨journal, rfl, fun _ _ => trivial⟩
    | quiet h => cases h <;> exact ⟨_, rfl, fun _ _ => trivial⟩
  discreet_transform := fun hnone => hnone.elim

end Middleware

section Unindented

open Middleware

/-- The text of any printer but a sequence is rewritten as if nothing were indented. -/
theorem Context.transform_unindented {context : Context Middleware} {kind : Kind}
    (hprinter : context.frame.printer = some kind) (hkind : kind ≠ .statementSequence)
    (text : String) : context.transform hooks text = context.transform unindented text := by
  have hhead : context.stack.head? = some kind := by
    unfold Context.stack
    rw [List.filterMap_cons_some hprinter, List.head?_cons]
  have hstep : (fun text middleware => hooks.transform middleware context text)
      = fun text middleware => unindented.transform middleware context text := by
    funext text middleware
    cases middleware with
    | indent =>
        have hsame : context.indentText text = .ok text := by
          unfold Context.indentText
          rw [hhead, if_neg (by simpa using hkind)]
        change (liftM (context.indentText text) : Effect Journal String) = pure text
        rw [hsame]
        rfl
    | _ => rfl
  unfold Context.transform
  rw [hstep]

/-- Asking for children has nothing to do with the text of the printer that asks. -/
theorem Layout.run_unindented {α : Type} (layout : Layout α) (kind : Kind)
    (children : List (Renderer Journal Middleware)) (context : Context Middleware) :
    layout.run hooks kind children context = layout.run unindented kind children context := by
  induction layout with
  | done value => rfl
  | fail error => rfl
  | overflow cause => rfl
  | ask index rule adjust next ih =>
      have hchild : renderChild hooks kind children context index rule adjust
          = renderChild unindented kind children context index rule adjust := rfl
      simp only [Layout.run, hchild, ih]

/-- A tree without sequences of statements is rendered as if nothing were indented. -/
theorem Tree.render_unindented {tree : Tree}
    (h : tree.Every fun printer => printer.kind ≠ .statementSequence) :
    tree.render hooks = tree.render unindented := by
  induction h with
  | @node id parentKind printer children hkind _ ih =>
      have hchildren : Tree.renderers hooks children = Tree.renderers unindented children := by
        rw [Tree.renderers_eq_map, Tree.renderers_eq_map]
        exact List.map_congr_left ih
      funext context
      refine ExceptT.ext (StateT.ext fun journal => ?_)
      rw [Tree.render, Tree.render, hchildren, Printer.render, Printer.render,
        Rendering.run_after, Rendering.run_after]
      -- The frame is configured alike, and stays one for the same printer.
      have hconfigure : (context.enter printer.kind).configure hooks
          = (context.enter printer.kind).configure unindented := rfl
      rw [← hconfigure]
      cases hrun : ((context.enter printer.kind).configure hooks).run journal with
      | error cause => rfl
      | ok pair =>
          have hprinter : pair.1.frame.printer = some printer.kind :=
            (Context.extends_shownTo hrun).printer_eq
          simp only [Except.bind, Layout.run_unindented,
            Context.transform_unindented hprinter hkind]

/-- An outline without sequences, whose printers take no notice of middlewares, is
    printed with onlookers as it is printed without any middleware. -/
theorem Outline.print_onlookers {outline : Outline} (h : outline.Every Printer.Inline)
    {config : Config} {middlewares : List Middleware}
    (hmiddlewares : ∀ middleware ∈ middlewares, middleware.Onlooker) :
    (outline.print (.initial config middlewares)).map Prod.fst
      = (outline.print (.initial config [])).map Prod.fst := by
  have hrender := Tree.render_unindented (h.imp Printer.Inline.kind_ne).tree
  have hroot : (Context.initial config middlewares).Beside Onlooker (fun _ => False)
      (Context.initial config []) := ⟨rfl, .of_extra hmiddlewares⟩
  unfold Outline.print Tree.print
  rw [hrender]
  have hblind := (h.imp Printer.Inline.blind).tree
  exact (Tree.endsAlike_render undisturbed_unindented hblind hroot trivial).map_fst

/-- Indentation gives the same text whichever quiet middlewares stand around it. -/
theorem Outline.print_watched {outline : Outline} (h : outline.Every Printer.Blind)
    {config : Config} {names : List String} {before after : List Middleware}
    (hquiet : ∀ middleware ∈ before ++ after, middleware.Quiet names) :
    (outline.print (.initial config (before ++ .indent :: after))).map Prod.fst
      = (outline.print (.initial config [.indent, .trace])).map Prod.fst := by
  rw [List.forall_mem_append] at hquiet
  -- Both lists have quiet middlewares woven into one that only indents.
  have hbare : ∀ {before after : List Middleware},
      (∀ middleware ∈ before, middleware.Quiet names) →
      (∀ middleware ∈ after, middleware.Quiet names) →
      (outline.print (.initial config (before ++ .indent :: after))).map Prod.fst
        = (outline.print (.initial config [.indent])).map Prod.fst := by
    intro before after hbefore hafter
    have hroot : (Context.initial config (before ++ .indent :: after)).Beside
        (Middleware.Quiet names) (fun _ => True) (Context.initial config [.indent]) :=
      ⟨rfl, (Woven.of_extra hbefore).append (.same ⟨rfl, trivial⟩ (.of_extra hafter))⟩
    exact (Tree.endsAlike_render (undisturbed names) h.tree hroot rfl).map_fst
  have htrace : ∀ middleware ∈ [Middleware.trace], middleware.Quiet names :=
    List.forall_mem_singleton.mpr .trace
  rw [hbare hquiet.1 hquiet.2, ← hbare (List.forall_mem_nil _) htrace, List.nil_append]

end Unindented

end Print

open Print Outline Code

namespace Print

variable {own : Printer → Prop} {printer : Printer} {config : Config}

theorem Outline.Uses.blind (hown : ∀ {printer}, own printer → printer.Blind)
    (h : Uses own printer) : printer.Blind := by
  cases h with
  | common h => exact (Printer.Stock.common h).blind
  | file statements => exact fun _ _ => rfl
  | own h => exact hown h

theorem Outline.Words.inline (hown : ∀ {printer}, own printer → printer.Inline)
    (h : Words own printer) : printer.Inline := by
  cases h with
  | text | join => exact ⟨fun _ _ => rfl, fun hkind => by cases hkind⟩
  | own h => exact hown h

/-- Without sequences an outline shows its draft to all onlookers, and to nobody as
    well. -/
theorem Outline.print_words (hown : ∀ {printer}, own printer → printer.Inline) {outline : Outline}
    {draft : Draft String} (hwords : outline.Every (Words own))
    (hdrafts : Drafts .usual config outline draft) {middlewares : List Middleware}
    (hmiddlewares : ∀ middleware ∈ middlewares, middleware.Onlooker) :
    (outline.print (.initial config middlewares)).map Prod.fst
      = (draft.settle config).map Except.ok := by
  have hinline : outline.Every Printer.Inline := hwords.imp (Words.inline hown)
  have htrace : Middleware.Quiet [] .trace := .trace
  have hwatched : ∀ middleware ∈ [Middleware.indent, .trace], middleware.Onlooker :=
    List.forall_mem_cons.mpr ⟨.indent, List.forall_mem_singleton.mpr (.quiet htrace)⟩
  rw [print_onlookers hinline hmiddlewares, ← print_onlookers hinline hwatched]
  exact print_of_draws hdrafts

/-- The text that an outline shows is what its draft settles to. -/
theorem Outline.Shows.settle_eq {outline : Outline} {draft : Draft String} {config : Config}
    {root : Context Middleware} {text : String} (h : outline.Shows root text)
    (hprint : (outline.print root).map Prod.fst = (draft.settle config).map Except.ok) :
    draft.settle config = .ok text := by
  rw [Shows, hprint] at h
  cases hsettle : draft.settle config with
  | error cause =>
      rw [hsettle] at h
      cases h
  | ok value =>
      rw [hsettle] at h
      exact congrArg Except.ok (Except.ok.inj (Except.ok.inj h))

end Print

namespace Php

theorem Own.inline {printer : Printer} (h : Own printer) : printer.Inline :=
  ⟨(Printer.Stock.php h).blind, wording.kind_ne h⟩

theorem print_expression (expression : Expression) {config : Config}
    {middlewares : List Middleware}
    (hmiddlewares : ∀ middleware ∈ middlewares, middleware.Onlooker) :
    ((expressionOutline expression).print (.initial config middlewares)).map Prod.fst
      = ((expressionDraft dialect expression).settle config).map Except.ok := by
  rw [expressionOutline_eq]
  exact print_words Own.inline (wording.words_expression expression)
    (wording.drafts_expression .usual config expression) hmiddlewares

end Php

namespace TypeScript

theorem Own.inline {printer : Printer} (h : Own printer) : printer.Inline :=
  ⟨(Printer.Stock.typeScript h).blind, wording.kind_ne h⟩

theorem print_expression (expression : Expression) {config : Config}
    {middlewares : List Middleware}
    (hmiddlewares : ∀ middleware ∈ middlewares, middleware.Onlooker) :
    ((expressionOutline expression).print (.initial config middlewares)).map Prod.fst
      = ((expressionDraft dialect expression).settle config).map Except.ok := by
  rw [expressionOutline_eq]
  exact print_words Own.inline (wording.words_expression expression)
    (wording.drafts_expression .usual config expression) hmiddlewares

end TypeScript

end ClassForge
