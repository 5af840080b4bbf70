import ClassForge.Proofs.Php.Written
import ClassForge.Proofs.Print.Unfailing
import ClassForge.Proofs.TypeScript.Written

/-!
# Files that Never Fail to Print

Every printer of a grammar insists on a number of children, and the children are
put there by the outline of the construct it belongs to. The two are written
down in different places, and a printer that found one child too few would give
up. They agree for every construct, so a file of either grammar never fails to
print: no middleware, no configuration and no state brings about a printing
error.

A literal is the only construct that needs a lead of its own, and only if it
takes several lines. Everything else about leads is left to the middlewares.

## Theorems

* `Code.Grammar.swept_construct`: Every printer of a construct asks for each of its
  children once, and has the children it needs.
* `files_never_fail_to_print`: Printing a file ends with a text or an overflow.
-/

namespace ClassForge

open Print Outline

namespace Code

theorem Dialect.lead_of_literal {dialect : Dialect} {isDictionary : Bool}
    {lead : Except Overflow String} {elements : List String} {cause : Overflow}
    (h : dialect.literal isDictionary lead elements = .error cause) : lead = .error cause := by
  unfold Dialect.literal at h
  split at h
  · exact eq_error_of_map h
  · cases h

end Code

namespace Code

variable {dialect : Dialect} {own : Printer → Prop}

theorem swept_callable (callable : Callable) : (callableOutline callable).Swept := by
  cases callable <;> exact swept_text _ _

theorem swept_target (target : Target) : (dialect.targetOutline target).Swept := by
  cases target <;> exact swept_text _ _

namespace Wording

variable (wording : Wording dialect own)

/-- A literal only fails for want of a lead. -/
theorem sweeps_literal (isDictionary : Bool) (count : Nat) :
    (wording.literal isDictionary).Sweeps count := by
  have hlead : ∀ indent parts cause, wording.lay isDictionary indent parts = .error cause →
      indent.process 1 = .error cause := by
    intro indent parts cause h
    rw [wording.lay_eq] at h
    exact Dialect.lead_of_literal h
  exact Printer.sweeps_measured (wording.literal_layout isDictionary) hlead count

mutual

/-- Every printer of an expression asks for each of its children once. -/
theorem swept_expression : (expression : Expression) →
    (wording.expressionOutline expression).Swept
  | .raw .. | .access _ | .variable _ => by
    rw [expressionOutline]
    exact swept_text _ _
  | .invoke callable _ parameters => by
    rw [expressionOutline]
    exact swept_two wording.invocation.combines.sweeps (swept_callable callable)
      (swept_separated ", " (swept_expressions parameters))
  | .compare _ left right => by
    rw [expressionOutline]
    exact swept_three wording.comparison.combines.sweeps (swept_expression left) (swept_text _ _)
      (swept_expression right)
  | .conditional condition whenTrue whenFalse => by
    rw [expressionOutline]
    exact swept_three wording.conditional.combines.sweeps (swept_expression condition)
      (swept_expression whenTrue) (swept_expression whenFalse)
  | .array isDictionary elements => by
    rw [expressionOutline]
    exact .node (wording.sweeps_literal isDictionary _) (swept_elements isDictionary elements)

theorem swept_expressions : (expressions : List Expression) →
    ∀ outline ∈ wording.expressionOutlines expressions, outline.Swept
  | [] => by
    rw [expressionOutlines]
    exact List.forall_mem_nil _
  | expression :: expressions => by
    rw [expressionOutlines]
    exact List.forall_mem_cons.mpr ⟨swept_expression expression, swept_expressions expressions⟩

theorem swept_element (isDictionary : Bool) : (element : Element) →
    (wording.elementOutline isDictionary element).Swept
  | .entry key value => by
    rw [elementOutline]
    exact swept_one (wording.element isDictionary key).combines.sweeps (swept_expression value)

theorem swept_elements (isDictionary : Bool) : (elements : List Element) →
    ∀ outline ∈ wording.elementOutlines isDictionary elements, outline.Swept
  | [] => by
    rw [elementOutlines]
    exact List.forall_mem_nil _
  | element :: elements => by
    rw [elementOutlines]
    exact List.forall_mem_cons.mpr
      ⟨swept_element isDictionary element, swept_elements isDictionary elements⟩

end

end Wording

namespace Grammar

variable {Statement : Type} (grammar : Grammar Statement)

theorem swept_wordsOutline (words : List String) : (wordsOutline words).Swept :=
  swept_words _ " " (fun word => word) words

theorem swept_argumentsOutline (arguments : List String) : (argumentsOutline arguments).Swept :=
  swept_words _ ", " (fun argument => argument) arguments

/-- Every printer of a statement asks for each of its children once. -/
theorem swept_statement (statement : Statement) : (grammar.outline statement).Swept := by
  induction statement using grammar.induct with
  | h statement ih =>
      have hinside : ∀ outline ∈ (grammar.line statement).statements.map grammar.outline,
          outline.Swept := List.forall_mem_map.mpr ih
      rw [grammar.outline_eq]
      cases hline : grammar.line statement with
      | fixed kind content => exact swept_text _ _
      | framed front framer members =>
          rw [hline] at hinside
          exact swept_one (Printer.sweeps_framed framer.layout) (swept_sequence hinside)
      | worded rest combiner words _ =>
          exact swept_one combiner.combines.sweeps (swept_wordsOutline words)
      | signed signature signer words _ arguments body =>
          rw [hline] at hinside
          exact swept_three (Printer.sweeps_signed signer.layout) (swept_wordsOutline words)
            (swept_argumentsOutline arguments) (swept_body hinside)
      | assigned combiner target value =>
          exact swept_two combiner.combines.sweeps (swept_target target)
            (grammar.wording.swept_expression value)
      | valued before combiner value =>
          exact swept_one combiner.combines.sweeps (grammar.wording.swept_expression value)

/-- So does every printer of any other construct. -/
theorem swept_construct (construct : Construct Statement) :
    (grammar.construct construct).Swept := by
  have hstatements : ∀ statements, ∀ outline ∈ grammar.outlines statements, outline.Swept :=
    fun statements => List.forall_mem_map.mpr fun statement _ => grammar.swept_statement statement
  cases construct with
  | file statements => exact swept_file (hstatements statements)
  | statement given => exact grammar.swept_statement given
  | body statements => exact swept_body (hstatements statements)
  | argument given => exact swept_text _ _
  | target given => exact swept_target given
  | callable given => exact swept_callable given
  | expression given => exact grammar.wording.swept_expression given

end Grammar

end Code

theorem Php.swept_construct (construct : Code.Construct Php.Statement) :
    (Php.constructOutline construct).Swept := by
  rw [Php.constructOutline_eq]
  exact Php.grammar.swept_construct construct

theorem TypeScript.swept_construct (construct : Code.Construct TypeScript.Statement) :
    (TypeScript.constructOutline construct).Swept := by
  rw [TypeScript.constructOutline_eq]
  exact TypeScript.grammar.swept_construct construct

/-- Printing a file of either grammar never fails. With any middlewares, from any
    root frame and whatever has been recorded, it ends with a text or with an
    overflow, and one that no middleware and no generator raised comes from the
    lead of one level. With the middlewares of the library every overflow comes
    from counting levels and columns. -/
theorem files_never_fail_to_print :
    (∀ {σ μ : Type} (hooks : Hooks σ μ) (root : Context μ) (record : σ),
      (∀ statements, Unfailing (Raised hooks root)
        (((Php.fileOutline statements).tree.render hooks root).run.run record)) ∧
      ∀ statements, Unfailing (Raised hooks root)
        (((TypeScript.fileOutline statements).tree.render hooks root).run.run record)) ∧
    ∀ root : Context Middleware,
      (∀ statements, Unfailing (Miscounted root) ((Php.fileOutline statements).print root)) ∧
      ∀ statements, Unfailing (Miscounted root)
        ((TypeScript.fileOutline statements).print root) := by
  have hphp : ∀ statements, (Php.fileOutline statements).Fits :=
    fun statements => (Php.swept_construct (.file statements)).fits
  have hts : ∀ statements, (TypeScript.fileOutline statements).Fits :=
    fun statements => (TypeScript.swept_construct (.file statements)).fits
  refine ⟨fun hooks root record => ⟨?_, ?_⟩, fun root => ⟨?_, ?_⟩⟩
  · exact fun statements => unfailing_render (hphp statements) hooks root record
  · exact fun statements => unfailing_render (hts statements) hooks root record
  · exact fun statements => unfailing_print (hphp statements) root
  · exact fun statements => unfailing_print (hts statements) root

end ClassForge
