import ClassForge.Proofs.Code.Fitting
import ClassForge.Proofs.Print.Levels
import ClassForge.Proofs.Print.Tracing

/-!
# Indentation that Never Overflows

The columns of one level may be any word, and so may the span of a filler. Still no
count goes wrong when code is printed, however deeply classes and methods are nested:
a level count is never more than one. Three mechanisms have to work together for
that. Everything but a body is asked for at the level in force, the body of a class
is set to level one by adjusting its frame, and the body of a method by a rule. None
of them adds to the level that there is.

What remains is the text of one level. If it has more bytes than can be held, printing
is given up, and for no other reason.

## Main definitions

* `Code.isBody`: Whether a child is the body of a class or of a method.
* `Context.Countable`: Frames on which no count overflows.
* `Outline.CountsSafely`: Outlines that are printed with such frames only.

## Theorems

* `Php.deepens_own`, `TypeScript.deepens_own`: The printers of a grammar ask for bodies
  one level deep and for nothing else.
* `levels_never_overflow`: Printing a construct of either grammar.
-/

namespace ClassForge

open Print Outline

namespace Print

/-- A frame under a configuration on which no count overflows. -/
structure Context.Countable (config : Config) (context : Context Middleware) : Prop where
  config_eq : context.config = config
  size_eq : context.state.size = 0 ∨ context.state.size = 1
  level_eq : context.state.level = context.depth
  /-- The columns of the level in force fit, and so do those of one level. -/
  columns : ∀ levels, levels = context.state.size ∨ levels = 1 →
    ∃ columns, Size.mul context.config.indent.size levels = .ok columns
  /-- Every rule gives a state, also the one that goes a level deeper. -/
  states : ∀ rule, ∃ state, context.settings.generator context.state rule = .ok state

theorem Context.Levelled.countable {config : Config} {size : Size} {context : Context Middleware}
    (h : context.Levelled config size) (hsize : size = 0 ∨ size = 1) :
    context.Countable config := by
  have hsmall : context.state.size = 0 ∨ context.state.size = 1 := by rwa [h.size_eq]
  refine ⟨h.config_eq, hsmall, h.level_eq, fun levels hlevels => ?_, fun rule => ?_⟩
  · have hfew : levels = 0 ∨ levels = 1 := by
      rcases hlevels with rfl | rfl
      · exact hsmall
      · exact .inr rfl
    rcases hfew with rfl | rfl
    · exact ⟨0, Size.mul_eq_ok_iff.mpr rfl⟩
    · exact ⟨context.config.indent.size, Size.mul_eq_ok_iff.mpr (Nat.mul_one _).symm⟩
  · rw [h.generator_eq]
    cases rule with
    | indent =>
        -- Even a level more than is ever asked for would fit.
        rcases hsmall with hzero | hone
        · exact ⟨⟨1, context.state.chain⟩, by
            rw [StateGenerator.standard, Rule.apply, IndentState.derive, hzero]; rfl⟩
        · exact ⟨⟨2, context.state.chain⟩, by
            rw [StateGenerator.standard, Rule.apply, IndentState.derive, hone]; rfl⟩
    | _ => exact ⟨_, rfl⟩

theorem IndentStyle.fill_eq_error {style : IndentStyle} {columns : Size} {cause : Overflow}
    (h : style.fill columns = .error cause) :
    cause = .capacity ∧ maxBytes < style.filler.utf8ByteSize * style.count columns := by
  unfold fill at h
  split at h
  · cases h
  · rename_i hlarge
    cases h
    exact ⟨rfl, Nat.lt_of_not_le hlarge⟩

end Print

namespace Code

/-- Whether the child at an index of a printer of this kind is the body of a class or
    of a method. -/
def isBody (kind : Kind) (index : Nat) : Bool :=
  decide (kind = .node NodeKind.classDecl.name ∧ index = 0 ∨
    kind = .node NodeKind.method.name ∧ index = 2)

/-- Nodes of other kinds have no bodies. -/
theorem isBody_other (kind : NodeKind) (hother : kind ≠ .classDecl ∧ kind ≠ .method) :
    isBody (.node kind.name) = fun _ => false := by
  have hnames : kind.name ≠ NodeKind.classDecl.name ∧ kind.name ≠ NodeKind.method.name := by
    revert hother
    cases kind <;> decide
  funext index
  rw [isBody, decide_eq_false_iff_not]
  rintro (⟨hkind, -⟩ | ⟨hkind, -⟩)
  · exact hnames.1 (Kind.node.inj hkind)
  · exact hnames.2 (Kind.node.inj hkind)

section Shapes

variable {printer : Printer}

theorem deepens_class {frame : String → String}
    (hkind : printer.kind = .node NodeKind.classDecl.name)
    (hlayout : ∀ (scope : Scope) (view : View), printer.layout scope view
      = (scope.expect 1).bind fun _ =>
        (Layout.child 0 .keep (Settings.withSize 1)).bind fun body => .done (frame body)) :
    printer.Deepens isBody := by
  intro scope view
  rw [hlayout, hkind]
  refine (Layout.deepens_expect scope 1).bind fun _ => ?_
  have hbody : AsksFor (isBody (.node NodeKind.classDecl.name) 0) .keep (Settings.withSize 1) :=
    .forced
  exact (Layout.deepens_child hbody).bind fun body => .done (frame body)

theorem deepens_method {combine : String → String → String → String}
    (hkind : printer.kind = .node NodeKind.method.name)
    (hlayout : ∀ (scope : Scope) (view : View), printer.layout scope view
      = (scope.expect 3).bind fun _ => (Layout.child 0).bind fun first =>
        (Layout.child 1).bind fun second => (Layout.child 2 (.indentTo 1)).bind fun body =>
          .done (combine first second body)) :
    printer.Deepens isBody := by
  intro scope view
  rw [hlayout, hkind]
  refine (Layout.deepens_expect scope 3).bind fun _ => ?_
  -- Modifiers and arguments stand in front of the body, at the level of the method.
  have hmodifiers : AsksFor (isBody (.node NodeKind.method.name) 0) .keep id := .same
  have harguments : AsksFor (isBody (.node NodeKind.method.name) 1) .keep id := .same
  have hbody : AsksFor (isBody (.node NodeKind.method.name) 2) (.indentTo 1) id := .deeper
  exact (Layout.deepens_child hmodifiers).bind fun first =>
    (Layout.deepens_child harguments).bind fun second =>
      (Layout.deepens_child hbody).bind fun body => .done (combine first second body)

-- The other shapes ask for all of their children at the level in force.
variable (hnone : isBody printer.kind = fun _ => false)

include hnone

theorem deepens_one {combine : String → String}
    (hlayout : ∀ (scope : Scope) (view : View), printer.layout scope view
      = (scope.expect 1).bind fun _ => (Layout.child 0).bind fun first => .done (combine first)) :
    printer.Deepens isBody := by
  intro scope view
  rw [hlayout, hnone]
  exact (Layout.deepens_expect scope 1).bind fun _ => (Layout.deepens_child .same).bind fun first =>
    .done (combine first)

theorem deepens_two {combine : String → String → String}
    (hlayout : ∀ (scope : Scope) (view : View), printer.layout scope view
      = (scope.expect 2).bind fun _ => (Layout.child 0).bind fun first =>
        (Layout.child 1).bind fun second => .done (combine first second)) :
    printer.Deepens isBody := by
  intro scope view
  rw [hlayout, hnone]
  exact (Layout.deepens_expect scope 2).bind fun _ => (Layout.deepens_child .same).bind fun first =>
    (Layout.deepens_child .same).bind fun second => .done (combine first second)

theorem deepens_three {combine : String → String → String → String}
    (hlayout : ∀ (scope : Scope) (view : View), printer.layout scope view
      = (scope.expect 3).bind fun _ => (Layout.child 0).bind fun first =>
        (Layout.child 1).bind fun second =>
          (Layout.child 2).bind fun third => .done (combine first second third)) :
    printer.Deepens isBody := by
  intro scope view
  rw [hlayout, hnone]
  exact (Layout.deepens_expect scope 3).bind fun _ => (Layout.deepens_child .same).bind fun first =>
    (Layout.deepens_child .same).bind fun second => (Layout.deepens_child .same).bind fun third =>
      .done (combine first second third)

theorem deepens_texts {lay : Indent → List String → Layout String}
    (hlay : ∀ indent parts, (lay indent parts).Deepens fun _ => false)
    (hlayout : ∀ (scope : Scope) (view : View),
      printer.layout scope view = scope.texts.bind (lay view.config.indent)) :
    printer.Deepens isBody := by
  intro scope view
  rw [hlayout, hnone]
  exact (Layout.deepens_texts scope).bind (hlay view.config.indent)

theorem deepens_counted {combine : List String → String} (count : Nat)
    (hlayout : ∀ (scope : Scope) (view : View), printer.layout scope view
      = (scope.expect count).bind fun _ => scope.texts.bind fun parts => .done (combine parts)) :
    printer.Deepens isBody := by
  intro scope view
  rw [hlayout, hnone]
  exact (Layout.deepens_expect scope count).bind fun _ =>
    (Layout.deepens_texts scope).bind fun parts => .done (combine parts)

end Shapes

/-- The printers that all grammars share ask for nothing one level deep. A fixed text
    may go by any name, but it asks for nothing at all. -/
theorem deepens_of_uses {own : Printer → Prop}
    (hown : ∀ {printer}, own printer → printer.Deepens isBody) {printer : Printer}
    (h : Uses own printer) : printer.Deepens isBody := by
  cases h with
  | common h =>
      cases h with
      | text name content => exact fun _ _ => .done content
      | passThrough =>
          intro scope view
          exact (Layout.deepens_expect scope 1).bind fun _ => Layout.deepens_child .same
      | join combine =>
          exact deepens_texts rfl (fun _ parts => .done (combine parts)) fun _ _ => rfl
      | sequence =>
          exact deepens_texts rfl (fun _ parts => .done ("\n".intercalate parts)) fun _ _ => rfl
  | file statements =>
      exact deepens_texts rfl (fun _ parts => .done ("\n".intercalate parts)) fun _ _ => rfl
  | own h => exact hown h

end Code

namespace Php

open Code

theorem deepens_own {printer : Printer} (h : Own printer) : printer.Deepens isBody := by
  cases h with
  | classDecl name => exact deepens_class rfl fun _ _ => rfl
  | method name => exact deepens_method rfl fun _ _ => rfl
  | member name => exact deepens_one (isBody_other .member (by decide)) fun _ _ => rfl
  | assignment => exact deepens_two (isBody_other .assignment (by decide)) fun _ _ => rfl
  | returns => exact deepens_one (isBody_other .returns (by decide)) fun _ _ => rfl
  | expression =>
      exact deepens_one (isBody_other .expressionStatement (by decide)) fun _ _ => rfl
  | invocation => exact deepens_two (isBody_other .invocation (by decide)) fun _ _ => rfl
  | comparison => exact deepens_counted (isBody_other .unary (by decide)) 3 fun _ _ => rfl
  | conditional => exact deepens_three (isBody_other .conditional (by decide)) fun _ _ => rfl
  | array =>
      exact deepens_texts (isBody_other .array (by decide)) (fun _ _ => Layout.deepens_ofSize _)
        fun _ _ => rfl
  | element key =>
      cases key <;> exact deepens_one (isBody_other .arrayElement (by decide)) fun _ _ => rfl

end Php

namespace TypeScript

open Code

theorem deepens_own {printer : Printer} (h : Own printer) : printer.Deepens isBody := by
  cases h with
  | classDecl exported name => exact deepens_class rfl fun _ _ => rfl
  | method name returns => exact deepens_method rfl fun _ _ => rfl
  | member name type => exact deepens_one (isBody_other .member (by decide)) fun _ _ => rfl
  | assignment => exact deepens_counted (isBody_other .assignment (by decide)) 2 fun _ _ => rfl
  | returns => exact deepens_counted (isBody_other .returns (by decide)) 1 fun _ _ => rfl
  | expression =>
      exact deepens_counted (isBody_other .expressionStatement (by decide)) 1 fun _ _ => rfl
  | invocation => exact deepens_two (isBody_other .invocation (by decide)) fun _ _ => rfl
  | conditional => exact deepens_three (isBody_other .conditional (by decide)) fun _ _ => rfl
  | array | object =>
      exact deepens_texts (isBody_other .array (by decide)) (fun _ _ => Layout.deepens_ofSize _)
        fun _ _ => rfl
  | element key =>
      cases key <;> exact deepens_one (isBody_other .arrayElement (by decide)) fun _ _ => rfl

end TypeScript

/-- An outline that is printed with indentation and the trace under a configuration
    without any count going wrong. -/
structure Print.Outline.CountsSafely (outline : Outline) (config : Config) : Prop where
  /-- There is a text, unless that of one level cannot be held. -/
  outcome : (∃ text journal,
      outline.print (.initial config [.indent, .trace]) = .ok (.ok text, journal)) ∨
    outline.print (.initial config [.indent, .trace]) = .error .capacity ∧
      maxBytes < config.indent.style.filler.utf8ByteSize
        * config.indent.style.count config.indent.size
  /-- The rounds below are all that there are. -/
  accounted : outline.tree.Accounted Middleware.hooks (.initial config [.indent, .trace]) .empty
  /-- Every frame that is made is shown to somebody in a round. Its level depends on
      whether it is inside a body, once the printer that asked for it is done with it. -/
  frames : ∀ round ∈ outline.tree.rounds Middleware.hooks [] (.initial config [.indent, .trace])
      .empty, ∃ frame, round.Shows frame ∧ frame.Countable config ∧
    (round.stage ≠ .child → frame.state.size
      = if outline.tree.deep Code.isBody (round.place.map Step.index) then 1 else 0)

theorem Print.Outline.countsSafely {outline : Outline} {own : Printer → Prop}
    (hown : ∀ {printer}, own printer → printer.Deepens Code.isBody)
    (hevery : outline.Every (Uses own)) (hswept : outline.Swept) (config : Config) :
    outline.CountsSafely config where
  outcome := by
    rcases unfailing_print hswept.fits (.initial config [.indent, .trace]) with
      htext | ⟨cause, hprint, context, hreachable, hcause⟩
    · exact .inl htext
    · -- What overflows is the lead of one level, and its columns fit.
      have hshallow : (Context.initial config [Middleware.indent, .trace]).Shallow config :=
        ⟨rfl, rfl, .inl rfl, List.forall_mem_cons.mpr
          ⟨.inl rfl, List.forall_mem_singleton.mpr (.inr rfl)⟩⟩
      have hlead := (shallow_of_reachable hshallow hreachable).process_one hcause
      rw [Indent.process_one] at hlead
      rcases IndentStyle.fill_eq_error hlead with ⟨rfl, hlarge⟩
      exact .inr ⟨hprint, hlarge⟩
  accounted := Tree.accounted _ _ _ _
  frames := by
    intro round hmem
    have hdeepens : outline.tree.Every (Printer.Deepens Code.isBody) :=
      hevery.tree.imp (Code.deepens_of_uses hown)
    rcases Tree.levelled_rounds hdeepens (Context.levelled_initial config) round hmem with
      ⟨way, frame, found, hplace, hshows, hlevelled, hsize, hexact⟩
    refine ⟨frame, hshows, hlevelled.countable hsize, fun hstage => ?_⟩
    rw [hplace, List.nil_append, hlevelled.size_eq]
    exact hexact hstage

/-- Whatever is configured, no count overflows when a construct of either grammar is
    printed with indentation and the trace. Every frame has as many ancestors of its
    state as frames above it, and is at level one inside the body of a class or of a
    method and at level zero everywhere else. So columns and levels fit, and printing
    ends with a text unless the text of one level cannot be held. A span of zero counts
    as one, so no division is by zero. -/
theorem levels_never_overflow (filler : String) (size span : Size) :
    let config : Config := ⟨size, .ofSpan filler span⟩
    config.indent.style.span = (if span = 0 then 1 else span) ∧
      config.indent.style.span ≠ 0 ∧
      (∀ construct, (Php.constructOutline construct).CountsSafely config) ∧
      ∀ construct, (TypeScript.constructOutline construct).CountsSafely config := by
  intro config
  refine ⟨?_, config.indent.style.span_pos, fun construct => ?_, fun construct => ?_⟩
  · change (IndentStyle.ofSpan filler span).span = _
    unfold IndentStyle.ofSpan
    split <;> rfl
  · exact countsSafely Php.deepens_own (Php.every_construct construct)
      (Php.swept_construct construct) config
  · exact countsSafely TypeScript.deepens_own (TypeScript.every_construct construct)
      (TypeScript.swept_construct construct) config

end ClassForge
