import ClassForge.Proofs.Code.Factories

/-!
# Blocks of Constructs

Every construct of a grammar goes into an arena as one block of slots. How long the block
is can be counted on the construct itself. Most of its parts have a printer of their own,
but not all printers belong to a part: the modifiers of a method stand below a printer that
joins them, and so do its arguments, even if there are none; an operator stands between its
operands; and the statements of a body take two further printers, one that puts them in a
row and one that passes the row on. `Expression.printerCount` and its companions count all
of these.

## Main definitions

* `Code.Expression.printerCount`: The printers of an expression, the same in both grammars.
* `Code.Tally`: Counting the printers of the statements of a grammar.
* `Php.Statement.printerCount`, `TypeScript.Statement.printerCount`: The printers of a
  statement.
* `Php.constructCount`, `TypeScript.constructCount`: The printers of a construct.

## Theorems

* `Code.Tally.size_statement`: Counted on the statement or on its outline, the printers
  are as many.
* `constructs_fill_one_block`: Putting a construct into an arena.
-/

namespace ClassForge

open Print Outline

namespace Code

mutual

/-- How many printers an expression takes. A call has one for its parameters as a whole, and
    a comparison one for its operator. -/
def Expression.printerCount : Expression → Nat
  | .raw .. | .access _ | .variable _ => 1
  | .invoke _ _ parameters => Expression.printerCounts parameters + 3
  | .compare _ left right => left.printerCount + right.printerCount + 2
  | .conditional condition whenTrue whenFalse =>
    condition.printerCount + whenTrue.printerCount + whenFalse.printerCount + 1
  | .array _ elements => Element.printerCounts elements + 1

/-- How many printers several expressions take. -/
def Expression.printerCounts : List Expression → Nat
  | [] => 0
  | expression :: expressions =>
    expression.printerCount + Expression.printerCounts expressions

/-- How many printers an element takes. -/
def Element.printerCount : Element → Nat
  | .entry _ value => value.printerCount + 1

/-- How many printers several elements take. -/
def Element.printerCounts : List Element → Nat
  | [] => 0
  | element :: elements => element.printerCount + Element.printerCounts elements

end

/-- How many printers a construct takes, given how many one statement and several of them
    take. -/
def Construct.printerCount {Statement : Type} (count : Statement → Nat)
    (countAll : List Statement → Nat) : Construct Statement → Nat
  | .file statements | .body statements => countAll statements + 2
  | .statement given => count given
  | .argument _ | .target _ | .callable _ => 1
  | .expression given => given.printerCount

/-- How many printers a line takes, given how many several statements take. Words and
    arguments are joined by one printer each, and the statements of a body are put in a row
    and passed on. -/
def Line.printerCount {own : Printer → Prop} {Statement : Type}
    (countAll : List Statement → Nat) : Line own Statement → Nat
  | .fixed .. => 1
  | .framed _ _ members => countAll members + 2
  | .worded _ _ words _ => words.length + 2
  | .signed _ _ words _ arguments body => words.length + arguments.length + countAll body + 5
  | .assigned _ _ value => value.printerCount + 2
  | .valued _ _ value => value.printerCount + 1

/-- How many printers the statements of a grammar take. -/
structure Tally {Statement : Type} (grammar : Grammar Statement) where
  /-- How many a statement takes. -/
  count : Statement → Nat
  /-- How many several of them take. -/
  countAll : List Statement → Nat
  /-- A statement takes as many as its line. -/
  count_eq : ∀ statement, count statement = (grammar.line statement).printerCount countAll
  /-- None take none. -/
  countAll_nil : countAll [] = 0
  /-- Several take as many as they take one by one. -/
  countAll_cons : ∀ statement statements,
    countAll (statement :: statements) = count statement + countAll statements

end Code

namespace Print

namespace Outline

theorem size_text (name content : String) : (text name content).size = 1 := rfl

theorem size_separated (separator : String) (parts : List Outline) :
    (separated separator parts).size = sizeAll parts + 1 := rfl

theorem size_body (statements : List Outline) : (body statements).size = sizeAll statements + 2 :=
  rfl

theorem sizeAll_texts {ι : Type} (name : String) (word : ι → String) (items : List ι) :
    sizeAll (items.map fun item => text name (word item)) = items.length := by
  induction items with
  | nil => rfl
  | cons item items ih =>
      rw [List.map_cons, sizeAll, size_text, ih, List.length_cons, Nat.add_comm]

end Outline

end Print

namespace Code

variable {dialect : Dialect} {own : Printer → Prop}

theorem size_target (target : Target) : (dialect.targetOutline target).size = 1 := by
  cases target <;> rfl

theorem size_callable (callable : Callable) : (callableOutline callable).size = 1 := by
  cases callable <;> rfl

theorem size_wordsOutline (words : List String) :
    (wordsOutline words).size = words.length + 1 :=
  congrArg (· + 1) (sizeAll_texts _ (fun word => word) words)

theorem size_argumentsOutline (arguments : List String) :
    (argumentsOutline arguments).size = arguments.length + 1 :=
  congrArg (· + 1) (sizeAll_texts _ (fun argument => argument) arguments)

namespace Wording

variable (wording : Wording dialect own)

mutual

/-- An expression has as many printers as its outline. -/
theorem size_expression : (expression : Expression) →
    (wording.expressionOutline expression).size = expression.printerCount
  | .raw .. | .access _ | .variable _ => by
    rw [expressionOutline, Expression.printerCount]
    rfl
  | .invoke callable _ parameters => by
    rw [expressionOutline, Expression.printerCount, ← sizeAll_expressions parameters]
    simp only [size, sizeAll, size_callable, size_separated]
    omega
  | .compare _ left right => by
    rw [expressionOutline, Expression.printerCount, ← size_expression left,
      ← size_expression right]
    simp only [size, sizeAll, size_text]
    omega
  | .conditional condition whenTrue whenFalse => by
    rw [expressionOutline, Expression.printerCount, ← size_expression condition,
      ← size_expression whenTrue, ← size_expression whenFalse]
    simp only [size, sizeAll]
    omega
  | .array isDictionary elements => by
    rw [expressionOutline, Expression.printerCount, size, sizeAll_elements isDictionary elements]

theorem sizeAll_expressions : (expressions : List Expression) →
    sizeAll (wording.expressionOutlines expressions) = Expression.printerCounts expressions
  | [] => by
    rw [expressionOutlines, Expression.printerCounts, sizeAll]
  | expression :: expressions => by
    rw [expressionOutlines, Expression.printerCounts, sizeAll, size_expression expression,
      sizeAll_expressions expressions]

theorem size_element (isDictionary : Bool) : (element : Element) →
    (wording.elementOutline isDictionary element).size = element.printerCount
  | .entry key value => by
    rw [elementOutline, Element.printerCount, size, sizeAll, sizeAll, size_expression value]

theorem sizeAll_elements (isDictionary : Bool) : (elements : List Element) →
    sizeAll (wording.elementOutlines isDictionary elements) = Element.printerCounts elements
  | [] => by
    rw [elementOutlines, Element.printerCounts, sizeAll]
  | element :: elements => by
    rw [elementOutlines, Element.printerCounts, sizeAll, size_element isDictionary element,
      sizeAll_elements isDictionary elements]

end

end Wording

namespace Tally

variable {Statement : Type} {grammar : Grammar Statement} (tally : Tally grammar)

theorem sizeAll_map {statements : List Statement}
    (h : ∀ statement ∈ statements, (grammar.outline statement).size = tally.count statement) :
    sizeAll (statements.map grammar.outline) = tally.countAll statements := by
  induction statements with
  | nil => rw [List.map_nil, sizeAll, tally.countAll_nil]
  | cons statement statements ih =>
      rw [List.forall_mem_cons] at h
      rw [List.map_cons, sizeAll, h.1, ih h.2, tally.countAll_cons]

/-- A statement has as many printers as its outline. -/
theorem size_statement (statement : Statement) :
    (grammar.outline statement).size = tally.count statement := by
  induction statement using grammar.induct with
  | h statement ih =>
      have hinside := tally.sizeAll_map ih
      rw [grammar.outline_eq, tally.count_eq]
      cases hline : grammar.line statement with
      | fixed kind content => rfl
      | framed front framer members =>
          rw [hline] at hinside
          exact congrArg (· + 2) hinside
      | worded rest combiner words _ =>
          simp only [Line.outline, Line.printerCount, size, sizeAll, size_wordsOutline]
      | signed signature signer words _ arguments body =>
          rw [hline, Line.statements] at hinside
          simp only [Line.outline, Line.printerCount, size, sizeAll, size_wordsOutline,
            size_argumentsOutline, size_body, hinside]
          omega
      | assigned combiner target value =>
          simp only [Line.outline, Line.printerCount, size, sizeAll, size_target,
            Wording.size_expression]
          omega
      | valued before combiner value =>
          simp only [Line.outline, Line.printerCount, size, sizeAll, Wording.size_expression]

/-- So has any other construct. -/
theorem size_construct (construct : Construct Statement) :
    (grammar.construct construct).size
      = Construct.printerCount tally.count tally.countAll construct := by
  have hstatements : ∀ statements,
      sizeAll (statements.map grammar.outline) = tally.countAll statements :=
    fun statements => tally.sizeAll_map fun statement _ => tally.size_statement statement
  cases construct with
  | file statements | body statements => exact congrArg (· + 2) (hstatements statements)
  | statement given => exact tally.size_statement given
  | argument given => rfl
  | target given => exact size_target given
  | callable given => exact size_callable given
  | expression given => exact grammar.wording.size_expression given

end Tally

end Code

namespace Php

open Code

mutual

/-- How many printers a statement takes. -/
def Statement.printerCount : Statement → Nat
  | .openTag | .namespaceDecl _ | .useDecl _ | .comment _ | .doc _ | .blankLine => 1
  | .classDecl _ members => Statement.printerCounts members + 2
  | .member modifiers _ _ => modifiers.length + 2
  | .method head body =>
    head.modifiers.length + head.arguments.length + Statement.printerCounts body + 5
  | .assign _ value => value.printerCount + 2
  | .returns value | .expression value => value.printerCount + 1

/-- How many printers several statements take. -/
def Statement.printerCounts : List Statement → Nat
  | [] => 0
  | statement :: statements => statement.printerCount + Statement.printerCounts statements

end

/-- How many printers a construct takes. -/
def constructCount : Construct Statement → Nat :=
  Construct.printerCount Statement.printerCount Statement.printerCounts

/-- Counted on the statement or on its line, the printers are as many. -/
def tally : Tally grammar where
  count := Statement.printerCount
  countAll := Statement.printerCounts
  count_eq := by
    intro statement
    cases statement with
    | member =>
        rw [Statement.printerCount]
        simp only [grammar, line, Line.printerCount, List.length_map]
    | method =>
        rw [Statement.printerCount]
        simp only [grammar, line, Line.printerCount, List.length_map]
    | _ =>
        rw [Statement.printerCount]
        rfl
  countAll_nil := by rw [Statement.printerCounts]
  countAll_cons := fun _ _ => by rw [Statement.printerCounts]

/-- A construct has as many printers as its outline. -/
theorem size_construct (construct : Construct Statement) :
    (constructOutline construct).size = constructCount construct := by
  rw [constructOutline_eq]
  exact tally.size_construct construct

end Php

namespace TypeScript

open Code

mutual

/-- How many printers a statement takes. -/
def Statement.printerCount : Statement → Nat
  | .comment _ | .blockComment _ | .doc _ | .blankLine => 1
  | .classDecl _ _ members => Statement.printerCounts members + 2
  | .member modifiers _ _ => modifiers.length + 2
  | .method head body =>
    head.modifiers.length + head.arguments.length + Statement.printerCounts body + 5
  | .assign _ value => value.printerCount + 2
  | .returns value | .expression value => value.printerCount + 1

/-- How many printers several statements take. -/
def Statement.printerCounts : List Statement → Nat
  | [] => 0
  | statement :: statements => statement.printerCount + Statement.printerCounts statements

end

/-- How many printers a construct takes. -/
def constructCount : Construct Statement → Nat :=
  Construct.printerCount Statement.printerCount Statement.printerCounts

/-- Counted on the statement or on its line, the printers are as many. -/
def tally : Tally grammar where
  count := Statement.printerCount
  countAll := Statement.printerCounts
  count_eq := by
    intro statement
    cases statement with
    | member =>
        rw [Statement.printerCount]
        simp only [grammar, line, Line.printerCount, List.length_map]
    | method =>
        rw [Statement.printerCount]
        simp only [grammar, line, Line.printerCount, List.length_map]
    | _ =>
        rw [Statement.printerCount]
        rfl
  countAll_nil := by rw [Statement.printerCounts]
  countAll_cons := fun _ _ => by rw [Statement.printerCounts]

/-- A construct has as many printers as its outline. -/
theorem size_construct (construct : Construct Statement) :
    (constructOutline construct).size = constructCount construct := by
  rw [constructOutline_eq]
  exact tally.size_construct construct

end TypeScript

/-- A construct of either grammar puts in its printers one by one, and all in all its outline.
    They go into the arena as one block of slots behind those that are there. The construct is
    given the first free id, and takes as many as can be counted on the construct itself. All
    new slots are below that id, and whatever is below one of them is numbered in a row and in
    preorder. Of the other slots only the parent's is changed, whose list of children has got
    one more entry. -/
theorem constructs_fill_one_block {arena : Arena} (hbuilt : arena.Built) {parent : Option Nat}
    (hparent : Arena.InRange parent arena.size) :
    (∀ construct : Code.Construct Php.Statement,
      Php.factory.putConstruct construct = (Php.constructOutline construct).attach ∧
      arena.GainsBlock parent (Php.constructOutline construct) (Php.constructCount construct)
        (((Php.constructOutline construct).attach parent).run arena)) ∧
    ∀ construct : Code.Construct TypeScript.Statement,
      TypeScript.factory.putConstruct construct = (TypeScript.constructOutline construct).attach ∧
      arena.GainsBlock parent (TypeScript.constructOutline construct)
        (TypeScript.constructCount construct)
        (((TypeScript.constructOutline construct).attach parent).run arena) := by
  refine ⟨fun construct => ⟨?_, ?_⟩, fun construct => ⟨?_, ?_⟩⟩
  · rw [Php.constructOutline_eq]
    exact Php.factory.putConstruct_eq construct
  · rw [← Php.size_construct]
    exact Arena.gainsBlock_attach hbuilt hparent _
  · rw [TypeScript.constructOutline_eq]
    exact TypeScript.factory.putConstruct_eq construct
  · rw [← TypeScript.size_construct]
    exact Arena.gainsBlock_attach hbuilt hparent _

/-- A return of a comparison, put in behind another statement of a body. -/
theorem comparison_fills_one_block :
    let arena := (Arena.empty.push none .sequence).push (some 0) (.text "Comment" "// a")
    let construct : Code.Construct Php.Statement :=
      .statement (.returns (.compare .doubleEqual (.variable "a") (.variable "b")))
    let given := ((Php.constructOutline construct).attach (some 0)).run arena
    arena.Built ∧ Arena.InRange (some 0) arena.size ∧
      Php.constructCount construct = 5 ∧ given.1 = 2 ∧ given.2.size = 7 ∧
      given.2.childIds 0 = [1, 2] ∧ given.2.childIds 3 = [4, 5, 6] ∧
      arena.GainsBlock (some 0) (Php.constructOutline construct) 5 given := by
  intro arena construct given
  have hbuilt : arena.Built :=
    (Arena.Built.empty.push (fun _ h => by cases h) _).push (fun _ h => by cases h; decide) _
  have hrange : Arena.InRange (some 0) arena.size := fun _ h => by cases h; decide
  exact ⟨hbuilt, hrange, by decide +kernel, by decide +kernel, by decide +kernel,
    by decide +kernel, by decide +kernel, ((constructs_fill_one_block hbuilt hrange).1 construct).2⟩

end ClassForge
