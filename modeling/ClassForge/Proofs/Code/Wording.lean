import ClassForge.Proofs.Code.Vocabulary
import ClassForge.Proofs.Code.Written

/-!
# How Grammars Write Expressions

The two grammars share their expressions, and apart from a few signs they also share
the way in which these are printed. What they do not share are the printers. Each
grammar has some of its own, wired as it pleases: one of them has a printer for
comparisons where the other joins three parts, and one has a printer for all literals
where the other has two. None of that can be seen from outside. All that matters about
a printer is what it makes of the texts of its parts.

A `Wording` is a choice of such printers with a proof that each of them does what the
dialect of the grammar asks for. Whatever is shown of its expressions here and in the
modules that build on this one is shown of both grammars at once. A grammar only has to
say that the outlines of its expressions are those of a wording.

## Main definitions

* `Combiner`: A printer of a grammar that combines the texts of its parts.
* `Wording`: The printers with which a grammar writes expressions.
* `Wording.expressionOutline`: The outline of an expression.

## Theorems

* `Wording.words_expression`: The printers of an expression.
* `Wording.drafts_expression`: The outline of an expression draws what is written.
-/

namespace ClassForge

open Print Outline

namespace Code

/-- A printer of a grammar that combines the texts of its parts. -/
structure Combiner (own : Printer → Prop) (count : Nat) (combine : List String → String) where
  /-- The printer. -/
  printer : Printer
  /-- It is one of those that expressions are made of. -/
  words : Words own printer
  /-- What it makes of the texts. -/
  combines : printer.Combines count combine

/-- The printers with which a grammar writes expressions. -/
structure Wording (dialect : Dialect) (own : Printer → Prop) where
  /-- No printer of the grammar puts statements in a row. -/
  kind_ne : ∀ {printer}, own printer → printer.kind ≠ .statementSequence
  /-- A callable and its parameters. -/
  invocation : Combiner own 2
    (Parts.two fun callable parameters => callable ++ "(" ++ parameters ++ ")")
  /-- Left, operator, right. -/
  comparison : Combiner own 3 " ".intercalate
  /-- A choice. -/
  conditional : Combiner own 3 (Parts.three fun condition whenTrue whenFalse =>
    condition ++ " ? " ++ whenTrue ++ " : " ++ whenFalse)
  /-- An element of a literal behind its key. -/
  element (isDictionary : Bool) (key : Option String) :
    Combiner own 1 (Parts.one fun value => keyText dialect isDictionary key ++ value)
  /-- A literal, which may be a dictionary or not. -/
  literal : Bool → Printer
  /-- It is a printer of the grammar. -/
  literal_own : ∀ isDictionary, own (literal isDictionary)
  /-- How it lays out the texts of its elements under an indentation. -/
  lay : Bool → Indent → List String → Except Overflow String
  /-- That is what the printer does. -/
  literal_layout : ∀ isDictionary (scope : Scope) (view : View),
    (literal isDictionary).layout scope view = scope.texts.bind fun parts =>
      Layout.ofSize (lay isDictionary view.config.indent parts)
  /-- And that is what the dialect asks for. -/
  lay_eq : ∀ isDictionary indent elements,
    lay isDictionary indent elements = dialect.literal isDictionary (indent.process 1) elements

/-- The outline of a callable. -/
def callableOutline : Callable → Outline
  | .named name => .text NodeKind.namedCallable.name name
  | .constructor className => .text NodeKind.constructor.name ("new " ++ className)

/-- A target, written down. -/
def Dialect.targetText (dialect : Dialect) : Target → String
  | .variable name => dialect.variableSign ++ name
  | .access path => path.text dialect.accessSign

/-- The outline of a target. -/
def Dialect.targetOutline (dialect : Dialect) : Target → Outline
  | .variable name => .text NodeKind.variable.name (dialect.variableSign ++ name)
  | .access path => .text NodeKind.access.name (path.text dialect.accessSign)

variable {dialect : Dialect} {own : Printer → Prop}

section Outlines

namespace Wording

variable (wording : Wording dialect own)

mutual

/-- The outline of an expression. -/
def expressionOutline : Expression → Outline
  | .raw text _ => .text NodeKind.raw.name text
  | .access path => .text NodeKind.access.name (path.text dialect.accessSign)
  | .variable name => .text NodeKind.variable.name (dialect.variableSign ++ name)
  | .invoke callable _ parameters =>
    .node wording.invocation.printer
      [callableOutline callable, .separated ", " (expressionOutlines parameters)]
  | .compare operator left right =>
    .node wording.comparison.printer [expressionOutline left,
      .text NodeKind.operator.name operator.sign, expressionOutline right]
  | .conditional condition whenTrue whenFalse =>
    .node wording.conditional.printer
      [expressionOutline condition, expressionOutline whenTrue, expressionOutline whenFalse]
  | .array isDictionary elements =>
    .node (wording.literal isDictionary) (elementOutlines isDictionary elements)

/-- The outlines of several expressions. -/
def expressionOutlines : List Expression → List Outline
  | [] => []
  | expression :: expressions =>
    expressionOutline expression :: expressionOutlines expressions

/-- The outline of an element. -/
def elementOutline (isDictionary : Bool) : Element → Outline
  | .entry key value =>
    .node (wording.element isDictionary key).printer [expressionOutline value]

/-- The outlines of several elements. -/
def elementOutlines (isDictionary : Bool) : List Element → List Outline
  | [] => []
  | element :: elements =>
    elementOutline isDictionary element :: elementOutlines isDictionary elements

end

end Wording

end Outlines

theorem every_callable (callable : Callable) : (callableOutline callable).Every (Words own) := by
  cases callable <;> exact every_text _ _

theorem every_target (target : Target) : (dialect.targetOutline target).Every (Words own) := by
  cases target <;> exact every_text _ _

theorem drafts_callable (watchers : Watchers) (config : Config) (callable : Callable) :
    Drafts watchers config (callableOutline callable) (.fixed (callableText callable)) := by
  cases callable <;> exact drafts_text watchers config _ _

theorem drafts_target (watchers : Watchers) (config : Config) (target : Target) :
    Drafts watchers config (dialect.targetOutline target)
      (.fixed (dialect.targetText target)) := by
  cases target <;> exact drafts_text watchers config _ _

namespace Wording

variable (wording : Wording dialect own)

include wording in
/-- No printer of an expression puts statements in a row. -/
theorem kind_ne_of_words {printer : Printer} (h : Words own printer) :
    printer.kind ≠ .statementSequence := by
  cases h with
  | text | join => exact fun hkind => by cases hkind
  | own h => exact wording.kind_ne h

section Printers

mutual

/-- The printers of an expression are fixed texts, joined parts and those of the
    grammar. -/
theorem words_expression : (expression : Expression) →
    (wording.expressionOutline expression).Every (Words own)
  | .raw .. | .access _ | .variable _ => by
    rw [expressionOutline]
    exact every_text _ _
  | .invoke callable _ parameters => by
    rw [expressionOutline]
    exact every_two wording.invocation.words (every_callable callable)
      (every_separated ", " (words_expressions parameters))
  | .compare _ left right => by
    rw [expressionOutline]
    exact every_three wording.comparison.words (words_expression left) (every_text _ _)
      (words_expression right)
  | .conditional condition whenTrue whenFalse => by
    rw [expressionOutline]
    exact every_three wording.conditional.words (words_expression condition)
      (words_expression whenTrue) (words_expression whenFalse)
  | .array isDictionary elements => by
    rw [expressionOutline]
    exact .node (.own (wording.literal_own isDictionary)) (words_elements isDictionary elements)

theorem words_expressions : (expressions : List Expression) →
    ∀ outline ∈ wording.expressionOutlines expressions, outline.Every (Words own)
  | [] => by
    rw [expressionOutlines]
    exact List.forall_mem_nil _
  | expression :: expressions => by
    rw [expressionOutlines]
    exact List.forall_mem_cons.mpr ⟨words_expression expression, words_expressions expressions⟩

theorem words_element (isDictionary : Bool) : (element : Element) →
    (wording.elementOutline isDictionary element).Every (Words own)
  | .entry key value => by
    rw [elementOutline]
    exact every_one (wording.element isDictionary key).words (words_expression value)

theorem words_elements (isDictionary : Bool) : (elements : List Element) →
    ∀ outline ∈ wording.elementOutlines isDictionary elements, outline.Every (Words own)
  | [] => by
    rw [elementOutlines]
    exact List.forall_mem_nil _
  | element :: elements => by
    rw [elementOutlines]
    exact List.forall_mem_cons.mpr
      ⟨words_element isDictionary element, words_elements isDictionary elements⟩

end

end Printers

section Drafts

variable {watchers : Watchers} {config : Config} {children : List Outline}
  {drafts : List (Draft String)}

include wording in
theorem drafts_combiner {count : Nat} {combine : List String → String}
    (combiner : Combiner own count combine) (hcount : children.length = count)
    (h : List.Forall₂ (Drafts watchers config) children drafts) :
    Drafts watchers config (.node combiner.printer children) ((Draft.all drafts).map combine) := by
  subst hcount
  exact drafts_combine (wording.kind_ne_of_words combiner.words) combiner.combines h

variable (watchers config)

mutual

/-- The outline of an expression draws what is written. -/
theorem drafts_expression : (expression : Expression) →
    Drafts watchers config (wording.expressionOutline expression)
      (expressionDraft dialect expression)
  | .raw text _ => by
    rw [expressionOutline, expressionDraft_raw]
    exact drafts_text watchers config _ text
  | .access path => by
    rw [expressionOutline, expressionDraft_access]
    exact drafts_text watchers config _ _
  | .variable name => by
    rw [expressionOutline, expressionDraft_variable]
    exact drafts_text watchers config _ _
  | .invoke callable _ parameters => by
    have hparameters := drafts_separated ", " (drafts_expressions parameters)
    rw [expressionOutline, expressionDraft_invoke]
    exact wording.drafts_combiner wording.invocation rfl
      (.cons (drafts_callable watchers config callable) (.cons hparameters .nil))
  | .compare operator left right => by
    have hoperator := drafts_text watchers config NodeKind.operator.name operator.sign
    rw [expressionOutline, expressionDraft_compare]
    exact wording.drafts_combiner wording.comparison rfl
      (.cons (drafts_expression left) (.cons hoperator (.cons (drafts_expression right) .nil)))
  | .conditional condition whenTrue whenFalse => by
    rw [expressionOutline, expressionDraft_conditional]
    exact wording.drafts_combiner wording.conditional rfl
      (.cons (drafts_expression condition)
        (.cons (drafts_expression whenTrue) (.cons (drafts_expression whenFalse) .nil)))
  | .array isDictionary elements => by
    have hsettle := settle_arrayDraft (wording.lay_eq isDictionary config.indent) elements
    rw [expressionOutline]
    exact drafts_measured (wording.kind_ne (wording.literal_own isDictionary))
      (wording.literal_layout isDictionary) hsettle (drafts_elements isDictionary elements)

theorem drafts_expressions : (expressions : List Expression) →
    List.Forall₂ (Drafts watchers config) (wording.expressionOutlines expressions)
      (expressions.map (expressionDraft dialect))
  | [] => by
    rw [expressionOutlines]
    exact .nil
  | expression :: expressions => by
    rw [expressionOutlines]
    exact .cons (drafts_expression expression) (drafts_expressions expressions)

theorem drafts_element (isDictionary : Bool) : (element : Element) →
    Drafts watchers config (wording.elementOutline isDictionary element)
      (elementDraft dialect isDictionary element)
  | .entry key value => by
    rw [elementOutline, elementDraft_entry]
    exact wording.drafts_combiner (wording.element isDictionary key) rfl
      (.cons (drafts_expression value) .nil)

theorem drafts_elements (isDictionary : Bool) : (elements : List Element) →
    List.Forall₂ (Drafts watchers config) (wording.elementOutlines isDictionary elements)
      (elements.map (elementDraft dialect isDictionary))
  | [] => by
    rw [elementOutlines]
    exact .nil
  | element :: elements => by
    rw [elementOutlines]
    exact .cons (drafts_element isDictionary element) (drafts_elements isDictionary elements)

end

end Drafts

end Wording

end Code

end ClassForge
