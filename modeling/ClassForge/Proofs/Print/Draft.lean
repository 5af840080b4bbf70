import ClassForge.Proofs.Print.Watched
import ClassForge.Proofs.Text.Indentation

/-!
# Drafts

A text of a grammar depends on the configuration in one way only: through the
lead of one level. A class and a method put it in front of the lines of their
bodies, and a literal that does not fit one line puts it in front of its
elements. Everything else is written without looking at it.

A draft is a text with the lead left open. It also says whether the lead is
asked for at all, since the lead may be a text that is too long to be held, and
then it makes a difference: a text that asks for it cannot be made, while a
text that does not is none the worse. A draft that does not ask must be the
same under every lead, and carries the proof of that. So drafts can be put
together freely, and `settle` can pick any lead for one that does not ask.

`Drafts` ties outlines to drafts. The rules below are all that a grammar needs:
fixed texts, printers that combine, the two printers with a body one level
deep, and literals.

## Main definitions

* `Draft`: A text with the lead of one level left open.
* `Draft.settle`: The text of a draft under a configuration.
* `Draft.fixed`, `Draft.map`, `Draft.all`, `Draft.led`, `Draft.ledAll`: How drafts
  are made.
* `Config.widest`: A configuration whose lead is too long.
* `Outline.Drafts`: At every level an outline draws the text of a draft.

## Theorems

* `Draft.settle_of_ok`, `Draft.settle_of_error`: A draft under a lead that there
  is, and under one that is too long.
* `Draft.settle_eq_error_iff`: When a draft has no value.
* `Draft.gather_settle`: Texts that are gathered from drafts.
* `Outline.drafts_combine`, `Outline.drafts_words`: Printers that combine.
* `Outline.drafts_framed`, `Outline.drafts_signed`: Printers with a body.
* `Outline.drafts_measured`: Printers that lay out what they have, literals.
* `Outline.print_of_drafts`: Printing statements from a root frame.
-/

namespace ClassForge

namespace Print

variable {α β : Type}

/-- A value with the lead of one level left open. -/
@[ext]
structure Draft (α : Type) where
  /-- Whether the lead is asked for. -/
  asks : Bool
  /-- The value under a lead. -/
  value : String → α
  /-- A value that does not ask for the lead is the same under each. -/
  steady : asks = false → ∀ lead, value lead = value ""

namespace Draft

/-- The value of a draft under a configuration. The lead is only computed for a
    draft that asks for it. -/
def settle (config : Config) (draft : Draft α) : Except Overflow α :=
  if draft.asks then (config.indent.process 1).map draft.value else .ok (draft.value "")

/-- A value that has nothing to do with the lead. -/
def fixed (value : α) : Draft α := ⟨false, fun _ => value, fun _ _ => rfl⟩

/-- The draft of what a function makes of a value. -/
def map (change : α → β) (draft : Draft α) : Draft β :=
  ⟨draft.asks, fun lead => change (draft.value lead),
    fun hasks lead => by rw [draft.steady hasks lead]⟩

/-- The draft of several values in a row. -/
def all : List (Draft α) → Draft (List α)
  | [] => fixed []
  | draft :: drafts =>
    ⟨draft.asks || (all drafts).asks, fun lead => draft.value lead :: (all drafts).value lead,
      fun hasks lead => by
        rw [Bool.or_eq_false_iff] at hasks
        rw [draft.steady hasks.1 lead, (all drafts).steady hasks.2 lead]⟩

/-- The draft of an indented text. It asks for the lead even if the text turns
    out to be empty. -/
def led (draft : Draft String) : Draft String :=
  ⟨true, fun lead => Text.indented lead (draft.value lead), fun hasks => by cases hasks⟩

/-- The draft of a text that is indented several times. -/
def ledAll : (indents : Nat) → Draft String → Draft String
  | 0, draft => draft
  | indents + 1, draft => ledAll indents draft.led

@[simp] theorem asks_map (change : α → β) (draft : Draft α) :
    (draft.map change).asks = draft.asks := rfl

@[simp] theorem value_map (change : α → β) (draft : Draft α) (lead : String) :
    (draft.map change).value lead = change (draft.value lead) := rfl

@[simp] theorem asks_all_cons (draft : Draft α) (drafts : List (Draft α)) :
    (all (draft :: drafts)).asks = (draft.asks || (all drafts).asks) := rfl

@[simp] theorem value_all_cons (draft : Draft α) (drafts : List (Draft α)) (lead : String) :
    (all (draft :: drafts)).value lead = draft.value lead :: (all drafts).value lead := rfl

/-- A row asks for the lead if one of its members does. -/
theorem asks_all_map {ι : Type} (draft : ι → Draft α) (items : List ι) :
    (all (items.map draft)).asks = items.any fun item => (draft item).asks := by
  induction items with
  | nil => rfl
  | cons item items ih => rw [List.map_cons, asks_all_cons, ih, List.any_cons]

theorem value_all_map {ι : Type} (draft : ι → Draft α) (items : List ι) (lead : String) :
    (all (items.map draft)).value lead = items.map fun item => (draft item).value lead := by
  induction items with
  | nil => rfl
  | cons item items ih => rw [List.map_cons, value_all_cons, ih, List.map_cons]

/-- A text that is indented at least once asks for the lead. -/
theorem asks_ledAll (indents : Nat) (draft : Draft String) :
    (draft.ledAll indents).asks = (decide (0 < indents) || draft.asks) := by
  induction indents generalizing draft with
  | zero => rfl
  | succ indents ih =>
      rw [ledAll, ih]
      simp [led]

theorem map_fixed (change : α → β) (value : α) :
    (fixed value).map change = fixed (change value) := rfl

theorem all_fixed (values : List α) : all (values.map fixed) = fixed values := by
  induction values with
  | nil => rfl
  | cons value values ih =>
      refine Draft.ext ?_ (funext fun lead => ?_)
      · rw [List.map_cons, asks_all_cons, ih]
        rfl
      · rw [List.map_cons, value_all_cons, ih]
        rfl

variable {config : Config}

/-- With a lead at hand every draft has its value under that lead. -/
theorem settle_of_ok {lead : String} (hlead : config.indent.process 1 = .ok lead)
    (draft : Draft α) : draft.settle config = .ok (draft.value lead) := by
  rw [settle, hlead]
  by_cases hasks : draft.asks = true
  · rw [if_pos hasks]
    rfl
  · rw [if_neg hasks, draft.steady (Bool.eq_false_iff.mpr hasks) lead]

/-- With a lead that is too long a draft has a value exactly if it does not ask
    for the lead. -/
theorem settle_of_error {cause : Overflow} (hlead : config.indent.process 1 = .error cause)
    (draft : Draft α) :
    draft.settle config = if draft.asks then .error cause else .ok (draft.value "") := by
  rw [settle, hlead]
  rfl

/-- A draft has no value exactly if it asks for a lead that is too long. -/
theorem settle_eq_error_iff (draft : Draft α) (cause : Overflow) :
    draft.settle config = .error cause
      ↔ config.indent.process 1 = .error cause ∧ draft.asks = true := by
  cases hlead : config.indent.process 1 with
  | ok lead =>
      rw [settle_of_ok hlead]
      simp only [reduceCtorEq, false_and]
  | error other =>
      rw [settle_of_error hlead]
      by_cases hasks : draft.asks = true
      · rw [if_pos hasks, Except.error.injEq, Except.error.injEq, and_iff_left hasks]
      · rw [if_neg hasks]
        simp only [hasks, reduceCtorEq, and_false]

theorem settle_map (change : α → β) (draft : Draft α) :
    (draft.map change).settle config = (draft.settle config).map change := by
  cases hlead : config.indent.process 1 with
  | ok lead =>
      rw [settle_of_ok hlead, settle_of_ok hlead]
      rfl
  | error cause =>
      rw [settle_of_error hlead, settle_of_error hlead, asks_map]
      cases draft.asks <;> rfl

theorem settle_cons (draft : Draft α) (drafts : List (Draft α)) :
    (all (draft :: drafts)).settle config
      = (draft.settle config).bind fun value =>
        ((all drafts).settle config).map fun values => value :: values := by
  cases hlead : config.indent.process 1 with
  | ok lead =>
      rw [settle_of_ok hlead, settle_of_ok hlead, settle_of_ok hlead]
      rfl
  | error cause =>
      -- The row fails as soon as one of its members asks.
      rw [settle_of_error hlead, settle_of_error hlead, settle_of_error hlead, asks_all_cons]
      cases draft.asks <;> cases (all drafts).asks <;> rfl

theorem settle_three (first second third : Draft α) (combine : List α → β) :
    ((all [first, second, third]).map combine).settle config
      = (first.settle config).bind fun one => (second.settle config).bind fun two =>
        (third.settle config).map fun three => combine [one, two, three] := by
  have hnil : (all ([] : List (Draft α))).settle config = .ok [] := rfl
  rw [settle_map, settle_cons, settle_cons, settle_cons, hnil]
  cases first.settle config with
  | error cause => rfl
  | ok one =>
      cases second.settle config with
      | error cause => rfl
      | ok two => cases third.settle config <;> rfl

/-- Texts that are gathered from drafts, at whatever level, are the text of all
    drafts in a row. -/
theorem gather_settle (drafts : List (Draft String)) (size : Size) :
    gather (drafts.map fun draft _ => draft.settle config) size = (all drafts).settle config := by
  induction drafts with
  | nil => rfl
  | cons draft drafts ih =>
      rw [settle_cons, ← ih, gather, List.map_cons, List.mapM_cons]
      rfl

/-- Indenting the text of a draft by one level asks for the lead, even if making
    the text did not. -/
theorem settle_led (draft : Draft String) :
    draft.led.settle config
      = (draft.settle config).bind (config.finish .statementSequence 1) := by
  cases hlead : config.indent.process 1 with
  | ok lead =>
      rw [settle_of_ok hlead, settle_of_ok hlead, Except.bind, Config.finish, if_pos rfl, hlead,
        led, Except.map, Text.leadLines_eq_indented]
  | error cause =>
      -- Whether or not the text itself can be made, its lead cannot.
      rw [settle_of_error hlead, settle_of_error hlead, led, if_pos rfl]
      cases draft.asks with
      | true => rfl
      | false =>
          rw [if_neg Bool.false_ne_true, Except.bind, Config.finish, if_pos rfl, hlead]
          rfl

theorem settle_ledAll (indents : Nat) (draft : Draft String) :
    (draft.ledAll indents).settle config
      = (draft.settle config).bind (config.finishAll .statementSequence 1 indents) := by
  induction indents generalizing draft with
  | zero =>
      change draft.settle config = (draft.settle config).bind Except.ok
      cases draft.settle config <;> rfl
  | succ indents ih =>
      rw [ledAll, ih, settle_led]
      cases draft.settle config <;> rfl

end Draft

/-- No level has no lead, under every configuration. -/
theorem Indent.process_zero (indent : Indent) : indent.process 0 = .ok "" := by
  have hmul : Size.mul indent.size 0 = .ok 0 := by
    rw [Size.mul_eq_ok_iff, UInt64.toNat_zero, Nat.mul_zero]
  have hcount : indent.style.count 0 = 0 := by
    rw [IndentStyle.count, UInt64.zero_div, UInt64.toNat_zero]
  rw [process, hmul]
  change indent.style.fill 0 = _
  rw [IndentStyle.fill_eq_ok_iff, hcount, Nat.mul_zero]
  refine ⟨Nat.zero_le _, ?_⟩
  rw [Text.repeated]
  split <;> rfl

/-- As many spaces a level as there are numbers for. No text is that long. -/
def Config.widest : Config := ⟨18446744073709551615, .space⟩

theorem Config.process_widest : Config.widest.indent.process 1 = .error .capacity := by
  rw [Indent.process_one, IndentStyle.fill, if_neg (by decide)]

/-- A sequence at level zero keeps its text. -/
theorem Config.finishAll_zero (config : Config) (kind : Kind) (indents : Nat) (text : String) :
    config.finishAll kind 0 indents text = .ok text := by
  have hfinish : config.finish kind 0 text = .ok text := by
    rw [finish, Indent.process_zero]
    split
    · rw [Except.map, Text.leadLines, if_pos (Or.inl rfl)]
    · rfl
  induction indents with
  | zero => rfl
  | succ indents ih =>
      rw [finishAll, hfinish]
      exact ih

namespace Outline

open Rendering

/-- At every level an outline draws the text of a draft. -/
def Drafts (watchers : Watchers) (config : Config) (outline : Outline) (draft : Draft String) :
    Prop :=
  Draws watchers config outline fun _ => draft.settle config

variable {watchers : Watchers} {config : Config} {printer : Printer}
  {children statements : List Outline} {drafts : List (Draft String)}

theorem draws_of_drafts (h : List.Forall₂ (Drafts watchers config) children drafts) :
    List.Forall₂ (Draws watchers config) children
      (drafts.map fun draft _ => draft.settle config) := by
  rw [List.forall₂_map_right_iff]
  exact h

/-- The outlines of several items draw the drafts of these items, if each does. -/
theorem drafts_map {ι : Type} {outlineOf : ι → Outline} {draftOf : ι → Draft String}
    {items : List ι} (h : ∀ item ∈ items, Drafts watchers config (outlineOf item) (draftOf item)) :
    List.Forall₂ (Drafts watchers config) (items.map outlineOf) (items.map draftOf) := by
  rw [List.forall₂_map_left_iff, List.forall₂_map_right_iff, List.forall₂_same]
  exact h

theorem drafts_text (watchers : Watchers) (config : Config) (name content : String) :
    Drafts watchers config (Outline.text name content) (.fixed content) :=
  draws_text watchers config name content

/-- A printer that combines the texts of its children. -/
theorem drafts_combine {combine : List String → String}
    (hkind : printer.kind ≠ .statementSequence)
    (hcombines : printer.Combines children.length combine)
    (h : List.Forall₂ (Drafts watchers config) children drafts) :
    Drafts watchers config (.node printer children) ((Draft.all drafts).map combine) := by
  have hdraws := draws_combine hkind hcombines (draws_of_drafts h)
  -- What is gathered does not depend on the level, so neither does the text.
  have hsame : (fun size : Size =>
      (gather (drafts.map fun draft _ => draft.settle config) size).map combine)
      = fun _ => ((Draft.all drafts).map combine).settle config := by
    funext size
    rw [Draft.gather_settle, Draft.settle_map]
  rwa [hsame] at hdraws

theorem drafts_separated (separator : String)
    (h : List.Forall₂ (Drafts watchers config) children drafts) :
    Drafts watchers config (separated separator children)
      ((Draft.all drafts).map separator.intercalate) :=
  drafts_combine (fun hkind => by cases hkind) (Printer.combines_join _ _) h

/-- Fixed texts with a separator between them. -/
theorem drafts_words {ι : Type} (watchers : Watchers) (config : Config) (name separator : String)
    (word : ι → String) (items : List ι) :
    Drafts watchers config
      (separated separator (items.map fun item => Outline.text name (word item)))
      (.fixed (separator.intercalate (items.map word))) := by
  have hwords : List.Forall₂ (Drafts watchers config)
      (items.map fun item => Outline.text name (word item)) ((items.map word).map Draft.fixed) := by
    rw [List.map_map]
    exact drafts_map fun item _ => drafts_text watchers config name (word item)
  have hdrafts := drafts_separated separator hwords
  rwa [Draft.all_fixed, Draft.map_fixed] at hdrafts

/-- Sibling statements: their joined text, finished at the level in force. -/
theorem draws_statements (h : List.Forall₂ (Drafts watchers config) statements drafts) :
    Draws watchers config (sequence statements) fun size =>
      (((Draft.all drafts).map "\n".intercalate).settle config).bind
        (config.finishAll .statementSequence size watchers.indents) := by
  have hdraws := draws_sequence (draws_of_drafts h)
  have hsame : (fun size : Size =>
      ((gather (drafts.map fun draft _ => draft.settle config) size).map
        "\n".intercalate).bind (config.finishAll .statementSequence size watchers.indents))
      = fun size => (((Draft.all drafts).map "\n".intercalate).settle config).bind
        (config.finishAll .statementSequence size watchers.indents) := by
    funext size
    rw [Draft.gather_settle, Draft.settle_map]
  rwa [hsame] at hdraws

/-- A printer that puts something around a sequence of statements one level
    deep, whatever level it has itself. -/
theorem drafts_framed {frame : String → String} (hkind : printer.kind ≠ .statementSequence)
    (hlayout : ∀ (scope : Scope) (view : View), scope.children.length = 1 →
      printer.layout scope view
        = (Layout.child 0 .keep (Settings.withSize 1)).bind fun body => .done (frame body))
    (h : List.Forall₂ (Drafts watchers config) statements drafts) :
    Drafts watchers config (.node printer [sequence statements])
      ((((Draft.all drafts).map "\n".intercalate).ledAll watchers.indents).map frame) := by
  refine draws_node hkind (List.Forall₂.cons (draws_statements h) List.Forall₂.nil) ?_
  intro scope context renderers hscope _ hwatched hdraws
  -- The size of the child is forced, so its level is one wherever the class is.
  have hbody : Yields ((Layout.child 0 .keep (Settings.withSize 1)).run Middleware.hooks
      printer.kind renderers context) _ :=
    yields_child_at hwatched hdraws rfl (childSize_forced _ 1)
  rw [hlayout scope context.view hscope, Layout.run_bind, Draft.settle_map, Draft.settle_ledAll]
  exact yields_map hbody frame

/-- A printer with two parts in front of a body of statements one level deep,
    whatever level it has itself. -/
theorem drafts_signed {combine : List String → String} {first second : Outline}
    {firstDraft secondDraft : Draft String} (hkind : printer.kind ≠ .statementSequence)
    (hlayout : ∀ (scope : Scope) (view : View), scope.children.length = 3 →
      printer.layout scope view
        = (Layout.child 0).bind fun first => (Layout.child 1).bind fun second =>
          (Layout.child 2 (.indentTo 1)).bind fun body => .done (combine [first, second, body]))
    (hfirst : Drafts watchers config first firstDraft)
    (hsecond : Drafts watchers config second secondDraft)
    (h : List.Forall₂ (Drafts watchers config) statements drafts) :
    Drafts watchers config (.node printer [first, second, body statements])
      ((Draft.all [firstDraft, secondDraft,
        ((Draft.all drafts).map "\n".intercalate).ledAll watchers.indents]).map combine) := by
  have hstatements := draws_body (draws_statements h)
  refine draws_node hkind (List.Forall₂.cons hfirst (List.Forall₂.cons hsecond
    (List.Forall₂.cons hstatements List.Forall₂.nil))) ?_
  intro scope context renderers hscope _ hwatched hdraws
  -- The first two parts are asked for at the level in force, which makes no
  -- difference to them, and the body at level one.
  have hone : Yields ((Layout.child 0).run Middleware.hooks printer.kind renderers context) _ :=
    yields_child_at hwatched hdraws rfl (childSize_keep _)
  have htwo : Yields ((Layout.child 1).run Middleware.hooks printer.kind renderers context) _ :=
    yields_child_at hwatched hdraws rfl (childSize_keep _)
  have hthree : Yields ((Layout.child 2 (.indentTo 1)).run Middleware.hooks printer.kind
      renderers context) _ :=
    yields_child_at hwatched hdraws rfl (childSize_indentTo _ 1)
  rw [hlayout scope context.view hscope, Draft.settle_three, Draft.settle_ledAll, Layout.run_bind]
  refine yields_bind hone (fun one _ => ?_)
  rw [Layout.run_bind]
  refine yields_bind htwo (fun two _ => ?_)
  rw [Layout.run_bind]
  exact yields_map hthree fun three => combine [one, two, three]

/-- A printer that lays out the texts of its children in a way that depends on
    the indentation in force. -/
theorem drafts_measured {lay : Indent → List String → Except Overflow String}
    {draft : Draft String} (hkind : printer.kind ≠ .statementSequence)
    (hlayout : ∀ (scope : Scope) (view : View),
      printer.layout scope view
        = scope.texts.bind fun parts => Layout.ofSize (lay view.config.indent parts))
    (hdraft : draft.settle config
      = ((Draft.all drafts).settle config).bind (lay config.indent))
    (h : List.Forall₂ (Drafts watchers config) children drafts) :
    Drafts watchers config (.node printer children) draft := by
  refine draws_node hkind (draws_of_drafts h) ?_
  intro scope context renderers hscope hcount hwatched hdraws
  have htexts : Yields (scope.texts.run Middleware.hooks printer.kind renderers context) _ :=
    yields_texts hwatched (hscope.trans hcount.symm) hdraws
  -- A watched frame has the configuration of its root.
  have hindent : context.view.config.indent = config.indent := by
    rw [← hwatched.config_eq]
    rfl
  rw [Draft.gather_settle] at htexts
  rw [hlayout, hindent, Layout.run_bind, hdraft]
  exact yields_bind htexts (fun parts _ => yields_ofSize (lay config.indent parts))

/-- The statements of a file, printed from a root frame, have their joined text
    and fail for no other reason than a lead that is too long. -/
theorem print_of_drafts (h : List.Forall₂ (Drafts watchers config) statements drafts) :
    ((file statements).print (.initial config watchers.middlewares)).map Prod.fst
      = (((Draft.all drafts).map "\n".intercalate).settle config).map Except.ok := by
  -- The statements of a file are at level zero, where finishing does nothing.
  rw [print_of_draws (draws_file (draws_statements h))]
  cases ((Draft.all drafts).map "\n".intercalate).settle config with
  | error cause => rfl
  | ok text => rw [Except.bind, Config.finishAll_zero]

end Outline

end Print

end ClassForge
