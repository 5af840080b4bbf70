import ClassForge.Proofs.Php.Written
import ClassForge.Proofs.Print.Filling
import ClassForge.Proofs.TypeScript.Written

/-!
# Factories

An outline is a description of a printer tree, and nothing that could be watched while
the tree is built. The constructs of a grammar do not describe their printers. Each of
them puts its own printer into an arena, and then asks its parts to do the same below
the id that the printer got. Some also put in printers for which there is no part: one
that joins the modifiers of a method, one that stands for the operator of a comparison,
and one each for passing on a body and for putting its statements in a row.

The factories below do all that, one printer after the other, in the order in which it
is done. Every one of them comes to putting in the outline of the construct. So what is
known of outlines in arenas is known of factories, and the inductions for it were made
on outlines, which have one constructor.

## Main definitions

* `Wording.putExpression`: Put in the printers of an expression.
* `Php.putStatement`, `TypeScript.putStatement`: Put in those of a statement.
* `Factory`: Putting in the statements of a grammar.
* `Factory.putConstruct`: Put in the printers of a construct.

## Theorems

* `Wording.putExpression_eq`: An expression puts in its outline.
* `Factory.putStatement_eq`, `Factory.putConstruct_eq`: So does anything else.
-/

namespace ClassForge

open Print Outline

namespace Print

namespace Arena

/-- Put in statements in a row. -/
def putSequence (below : Nat → StateM Arena Unit) (above : Nat) : StateM Arena Nat :=
  putOver .sequence below (some above)

/-- Put in parts with a separator between them. -/
def putJoined (separator : String) (below : Nat → StateM Arena Unit) (above : Nat) :
    StateM Arena Nat :=
  putOver (.separated separator) below (some above)

/-- Put in the statements of a body. -/
def putBody (below : Nat → StateM Arena Unit) (parent : Option Nat) : StateM Arena Nat := do
  let id ← put parent .passThrough
  let _ ← putSequence below id
  return id

/-- Put in the statements of a file. -/
def putFile (below : Nat → StateM Arena Unit) (parent : Option Nat) : StateM Arena Nat := do
  let id ← put parent (.highOrder fun scope _ => do return "\n".intercalate (← scope.texts))
  let _ ← putSequence below id
  return id

variable (children : List Outline)

theorem putSequence_attachAll (above : Nat) :
    putSequence (attachAll children) above = (Outline.sequence children).attach (some above) := by
  rw [Outline.sequence, attach_node, putSequence]

theorem putJoined_attachAll (separator : String) (above : Nat) :
    putJoined separator (attachAll children) above
      = (Outline.separated separator children).attach (some above) := by
  rw [Outline.separated, attach_node, putJoined]

theorem putBody_attachAll : putBody (attachAll children) = (Outline.body children).attach := by
  funext parent
  rw [Outline.body, attach_one]
  simp only [putBody, putSequence_attachAll]

theorem putFile_attachAll : putFile (attachAll children) = (Outline.file children).attach := by
  funext parent
  rw [Outline.file, attach_one]
  simp only [putFile, putSequence_attachAll]

end Arena

end Print

namespace Code

open Arena

/-- Put in modifiers with spaces between them. -/
def putModifiers (words : List String) (above : Nat) : StateM Arena Nat :=
  putJoined " " (putEach (fun word parent => put parent (.text NodeKind.modifier.name word)) words)
    above

/-- Put in arguments with commas between them. -/
def putArguments (arguments : List String) (above : Nat) : StateM Arena Nat :=
  putJoined ", " (putEach (fun argument parent =>
    put parent (.text NodeKind.argument.name argument)) arguments) above

/-- Put in the printer of a callable. -/
def putCallable : Callable → Option Nat → StateM Arena Nat
  | .named name => fun parent => put parent (.text NodeKind.namedCallable.name name)
  | .constructor className => fun parent =>
    put parent (.text NodeKind.constructor.name ("new " ++ className))

/-- Put in the printer of a target. -/
def Dialect.putTarget (dialect : Dialect) : Target → Option Nat → StateM Arena Nat
  | .variable name => fun parent =>
    put parent (.text NodeKind.variable.name (dialect.variableSign ++ name))
  | .access path => fun parent =>
    put parent (.text NodeKind.access.name (path.text dialect.accessSign))

theorem putCallable_eq (callable : Callable) :
    putCallable callable = (callableOutline callable).attach := by
  cases callable <;> exact (attach_text _ _).symm

theorem putTarget_eq (dialect : Dialect) (target : Target) :
    dialect.putTarget target = (dialect.targetOutline target).attach := by
  cases target <;> exact (attach_text _ _).symm

variable {dialect : Dialect} {own : Printer → Prop} {Statement : Type}

section Expressions

namespace Wording

variable (wording : Wording dialect own)

mutual

/-- Put in the printers of an expression. -/
def putExpression : Expression → Option Nat → StateM Arena Nat
  | .raw text _ => fun parent => put parent (.text NodeKind.raw.name text)
  | .access path => fun parent =>
    put parent (.text NodeKind.access.name (path.text dialect.accessSign))
  | .variable name => fun parent =>
    put parent (.text NodeKind.variable.name (dialect.variableSign ++ name))
  | .invoke callable _ parameters => fun parent => do
    let id ← put parent wording.invocation.printer
    let _ ← putCallable callable (some id)
    let _ ← putJoined ", " (putExpressions parameters) id
    return id
  | .compare operator left right => fun parent => do
    let id ← put parent wording.comparison.printer
    let _ ← putExpression left (some id)
    let _ ← put (some id) (.text NodeKind.operator.name operator.sign)
    let _ ← putExpression right (some id)
    return id
  | .conditional condition whenTrue whenFalse => fun parent => do
    let id ← put parent wording.conditional.printer
    let _ ← putExpression condition (some id)
    let _ ← putExpression whenTrue (some id)
    let _ ← putExpression whenFalse (some id)
    return id
  | .array isDictionary elements => fun parent => do
    let id ← put parent (wording.literal isDictionary)
    putElements isDictionary elements id
    return id

/-- Put in several expressions. -/
def putExpressions : List Expression → Nat → StateM Arena Unit
  | [] => fun _ => return
  | expression :: expressions => fun above => do
    let _ ← putExpression expression (some above)
    putExpressions expressions above

/-- Put in the printers of an element. -/
def putElement (isDictionary : Bool) : Element → Option Nat → StateM Arena Nat
  | .entry key value => fun parent => do
    let id ← put parent (wording.element isDictionary key).printer
    let _ ← putExpression value (some id)
    return id

/-- Put in several elements. -/
def putElements (isDictionary : Bool) : List Element → Nat → StateM Arena Unit
  | [] => fun _ => return
  | element :: elements => fun above => do
    let _ ← putElement isDictionary element (some above)
    putElements isDictionary elements above

end

mutual

/-- An expression puts in its outline. -/
theorem putExpression_eq : (expression : Expression) →
    wording.putExpression expression = (wording.expressionOutline expression).attach
  | .raw .. | .access _ | .variable _ => by
    rw [putExpression, expressionOutline, attach_text]
  | .invoke callable _ parameters => by
    rw [putExpression, expressionOutline, attach_two, putCallable_eq,
      putExpressions_eq parameters]
    simp only [putJoined_attachAll]
  | .compare operator left right => by
    rw [putExpression, expressionOutline, attach_three, attach_text, putExpression_eq left,
      putExpression_eq right]
  | .conditional condition whenTrue whenFalse => by
    rw [putExpression, expressionOutline, attach_three, putExpression_eq condition,
      putExpression_eq whenTrue, putExpression_eq whenFalse]
  | .array isDictionary elements => by
    rw [putExpression, expressionOutline, attach_node, putElements_eq isDictionary elements]
    rfl

theorem putExpressions_eq : (expressions : List Expression) →
    wording.putExpressions expressions = attachAll (wording.expressionOutlines expressions)
  | [] => by
    rw [putExpressions, expressionOutlines, attachAll]
  | expression :: expressions => by
    rw [putExpressions, expressionOutlines, attachAll, putExpression_eq expression,
      putExpressions_eq expressions]

theorem putElement_eq (isDictionary : Bool) : (element : Element) →
    wording.putElement isDictionary element = (wording.elementOutline isDictionary element).attach
  | .entry key value => by
    rw [putElement, elementOutline, attach_one, putExpression_eq value]

theorem putElements_eq (isDictionary : Bool) : (elements : List Element) →
    wording.putElements isDictionary elements
      = attachAll (wording.elementOutlines isDictionary elements)
  | [] => by
    rw [putElements, elementOutlines, attachAll]
  | element :: elements => by
    rw [putElements, elementOutlines, attachAll, putElement_eq isDictionary element,
      putElements_eq isDictionary elements]

end

end Wording

end Expressions

theorem putModifiers_eq (words : List String) (above : Nat) :
    putModifiers words above = (wordsOutline words).attach (some above) := by
  have hwords := putEach_eq (fun word => (attach_text NodeKind.modifier.name word).symm) words
  rw [putModifiers, hwords, putJoined_attachAll, wordsOutline]

theorem putArguments_eq (arguments : List String) (above : Nat) :
    putArguments arguments above = (argumentsOutline arguments).attach (some above) := by
  have harguments :=
    putEach_eq (fun argument => (attach_text NodeKind.argument.name argument).symm) arguments
  rw [putArguments, harguments, putJoined_attachAll, argumentsOutline]

/-- Put in the printers of a line, given how its statements are put in. -/
def Line.put (wording : Wording dialect own) (putAll : List Statement → Nat → StateM Arena Unit) :
    Line own Statement → Option Nat → StateM Arena Nat
  | .fixed kind content => fun parent => Arena.put parent (.text kind.name content)
  | .framed _ framer members => fun parent => do
    let id ← Arena.put parent framer.printer
    let _ ← putSequence (putAll members) id
    return id
  | .worded _ combiner words _ => fun parent => do
    let id ← Arena.put parent combiner.printer
    let _ ← putModifiers words id
    return id
  | .signed _ signer words _ arguments body => fun parent => do
    let id ← Arena.put parent signer.printer
    let _ ← putModifiers words id
    let _ ← putArguments arguments id
    let _ ← putBody (putAll body) (some id)
    return id
  | .assigned combiner target value => fun parent => do
    let id ← Arena.put parent combiner.printer
    let _ ← dialect.putTarget target (some id)
    let _ ← wording.putExpression value (some id)
    return id
  | .valued _ combiner value => fun parent => do
    let id ← Arena.put parent combiner.printer
    let _ ← wording.putExpression value (some id)
    return id

/-- Putting in the statements of a grammar. -/
structure Factory (grammar : Grammar Statement) where
  /-- Put in the printers of a statement. -/
  putStatement : Statement → Option Nat → StateM Arena Nat
  /-- Put in several statements below one printer. -/
  putAll : List Statement → Nat → StateM Arena Unit
  /-- A statement is put in as its line is. -/
  put_line : ∀ statement,
    putStatement statement = (grammar.line statement).put grammar.wording putAll
  /-- None are put in by doing nothing. -/
  putAll_nil : putAll [] = fun _ => return
  /-- Several are put in one after the other. -/
  putAll_cons : ∀ statement statements, putAll (statement :: statements) = fun above => do
    let _ ← putStatement statement (some above)
    putAll statements above

namespace Factory

variable {grammar : Grammar Statement} (factory : Factory grammar)

/-- Put in the printers of a construct. -/
def putConstruct : Construct Statement → Option Nat → StateM Arena Nat
  | .file statements => putFile (factory.putAll statements)
  | .statement given => factory.putStatement given
  | .body statements => putBody (factory.putAll statements)
  | .argument given => fun parent =>
    put parent (.text NodeKind.argument.name (grammar.argument given))
  | .target given => grammar.dialect.putTarget given
  | .callable given => putCallable given
  | .expression given => grammar.wording.putExpression given

/-- A statement puts in its outline. -/
theorem putStatement_eq (statement : Statement) :
    factory.putStatement statement = (grammar.outline statement).attach := by
  induction statement using grammar.induct with
  | h statement ih =>
      -- The statements inside are put in by a loop of their own, which the line calls.
      have hinside := eq_attachAll factory.putAll_nil factory.putAll_cons ih
      rw [factory.put_line, grammar.outline_eq]
      cases hline : grammar.line statement with
      | fixed kind content => exact (attach_text _ _).symm
      | framed front framer members =>
          rw [hline, Line.statements] at hinside
          rw [Line.put, Line.outline, attach_one, hinside]
          simp only [putSequence_attachAll]
      | worded rest combiner words _ =>
          rw [Line.put, Line.outline, attach_one]
          simp only [putModifiers_eq]
      | signed signature signer words _ arguments body =>
          rw [hline, Line.statements] at hinside
          rw [Line.put, Line.outline, attach_three, hinside, putBody_attachAll]
          simp only [putModifiers_eq, putArguments_eq]
      | assigned combiner target value =>
          rw [Line.put, Line.outline, attach_two, putTarget_eq, Wording.putExpression_eq]
      | valued before combiner value =>
          rw [Line.put, Line.outline, attach_one, Wording.putExpression_eq]

/-- So does any other construct. -/
theorem putConstruct_eq (construct : Construct Statement) :
    factory.putConstruct construct = (grammar.construct construct).attach := by
  have hstatements : ∀ statements,
      factory.putAll statements = attachAll (grammar.outlines statements) := fun statements =>
    eq_attachAll factory.putAll_nil factory.putAll_cons fun statement _ =>
      factory.putStatement_eq statement
  cases construct with
  | file statements =>
      rw [putConstruct, Grammar.construct, hstatements, putFile_attachAll]
  | statement given => exact factory.putStatement_eq given
  | body statements =>
      rw [putConstruct, Grammar.construct, hstatements, putBody_attachAll]
  | argument given => exact (attach_text _ _).symm
  | target given => exact putTarget_eq _ given
  | callable given => exact putCallable_eq given
  | expression given => exact grammar.wording.putExpression_eq given

end Factory

end Code

namespace Php

open Code Arena

mutual

/-- Put in the printers of a statement. -/
def putStatement : Statement → Option Nat → StateM Arena Nat
  | .openTag => fun parent => put parent (.text NodeKind.openTag.name "<?php")
  | .namespaceDecl name => fun parent =>
    put parent (.text NodeKind.namespaceDecl.name ("namespace " ++ name ++ ";"))
  | .useDecl name => fun parent =>
    put parent (.text NodeKind.useDecl.name ("use " ++ name ++ ";"))
  | .comment text => fun parent => put parent (.text NodeKind.comment.name ("// " ++ text))
  | .doc comment => fun parent => put parent (.text NodeKind.docComment.name (docText comment))
  | .classDecl name members => fun parent => do
    let id ← put parent (Printers.classDecl name)
    let _ ← putSequence (putStatements members) id
    return id
  | .member modifiers name _ => fun parent => do
    let id ← put parent (Printers.member name)
    let _ ← putModifiers (modifiers.map Modifier.word) id
    return id
  | .method head body => fun parent => do
    let id ← put parent (Printers.method head.name)
    let _ ← putModifiers (head.modifiers.map Modifier.word) id
    let _ ← putArguments (head.arguments.map fun argument => "$" ++ argument.name) id
    let _ ← putBody (putStatements body) (some id)
    return id
  | .assign target value => fun parent => do
    let id ← put parent Printers.assignment
    let _ ← dialect.putTarget target (some id)
    let _ ← wording.putExpression value (some id)
    return id
  | .returns value => fun parent => do
    let id ← put parent (Printers.affix .returns "return " ";")
    let _ ← wording.putExpression value (some id)
    return id
  | .expression value => fun parent => do
    let id ← put parent (Printers.affix .expressionStatement "" ";")
    let _ ← wording.putExpression value (some id)
    return id
  | .blankLine => fun parent => put parent (.text NodeKind.blankLine.name "")

/-- Put in several statements. -/
def putStatements : List Statement → Nat → StateM Arena Unit
  | [] => fun _ => return
  | statement :: statements => fun above => do
    let _ ← putStatement statement (some above)
    putStatements statements above

end

/-- Putting in the statements of the grammar. -/
def factory : Factory grammar where
  putStatement := putStatement
  putAll := putStatements
  put_line := by
    intro statement
    cases statement <;>
      rw [putStatement] <;>
      rfl
  putAll_nil := by rw [putStatements]
  putAll_cons := fun _ _ => by rw [putStatements]

end Php

namespace TypeScript

open Code Arena

mutual

/-- Put in the printers of a statement. -/
def putStatement : Statement → Option Nat → StateM Arena Nat
  | .comment text => fun parent => put parent (.text NodeKind.comment.name ("// " ++ text))
  | .blockComment text => fun parent =>
    put parent (.text NodeKind.blockComment.name ("/* " ++ text ++ " */"))
  | .doc comment => fun parent => put parent (.text NodeKind.docComment.name (docText comment))
  | .classDecl exported name members => fun parent => do
    let id ← put parent (Printers.classDecl exported name)
    let _ ← putSequence (putStatements members) id
    return id
  | .member modifiers name type => fun parent => do
    let id ← put parent (Printers.member name type)
    let _ ← putModifiers (modifiers.map Modifier.word) id
    return id
  | .method head body => fun parent => do
    let id ← put parent (Printers.method head.name head.returns)
    let _ ← putModifiers (head.modifiers.map Modifier.word) id
    let _ ← putArguments (head.arguments.map argumentText) id
    let _ ← putBody (putStatements body) (some id)
    return id
  | .assign target value => fun parent => do
    let id ← put parent (Printers.statement .assignment 2)
    let _ ← dialect.putTarget target (some id)
    let _ ← wording.putExpression value (some id)
    return id
  | .returns value => fun parent => do
    let id ← put parent (Printers.statement .returns 1)
    let _ ← wording.putExpression value (some id)
    return id
  | .expression value => fun parent => do
    let id ← put parent (Printers.statement .expressionStatement 1)
    let _ ← wording.putExpression value (some id)
    return id
  | .blankLine => fun parent => put parent (.text NodeKind.blankLine.name "")

/-- Put in several statements. -/
def putStatements : List Statement → Nat → StateM Arena Unit
  | [] => fun _ => return
  | statement :: statements => fun above => do
    let _ ← putStatement statement (some above)
    putStatements statements above

end

/-- Putting in the statements of the grammar. -/
def factory : Factory grammar where
  putStatement := putStatement
  putAll := putStatements
  put_line := by
    intro statement
    cases statement <;>
      rw [putStatement] <;>
      rfl
  putAll_nil := by rw [putStatements]
  putAll_cons := fun _ _ => by rw [putStatements]

end TypeScript

end ClassForge
