import ClassForge.Php.Statement
import ClassForge.Print.Outline

/-!
# How PHP is Printed

The printers of the PHP grammar and the outline of every construct.

The members of a class are printed one level deep, whatever level the class
itself has, and so is the body of a method: a sequence of statements is
indented as a whole once its text is complete, so each sequence only has to
know about its own level.

## Main definitions

* `arrayWrapWidth`, `arrayWidth`: When an array literal is too long for one line.
* `docText`, `arrayText`: The texts of comments and of array literals.
* `expressionOutline`, `statementOutline`: The outlines of expressions and
  statements.
* `fileOutline`: The outline of a file.
-/

namespace ClassForge

namespace Php

open Code Print

/-- The fixed text of a node. -/
def textNode (kind : NodeKind) (content : String) : Outline := .text kind.name content

/-- The text of a variable. -/
def variableText (name : String) : String := "$" ++ name

/-- The text of a path of accessors. -/
def accessText (path : AccessPath) : String := path.text "->"

/-- A line of a documentation comment in its frame. -/
def docLine (line : String) : String :=
  if line = "" then " *\n" else " * " ++ line ++ "\n"

/-- The text of a documentation comment. -/
def docText (comment : DocComment) : String :=
  "/**\n" ++ String.join ((docLines comment).map docLine) ++ " */"

/-- How many characters the elements of an array literal may have on one line. -/
def arrayWrapWidth : Nat := 80

/-- How many characters the elements of an array literal have. Brackets and
    separators do not count. -/
def arrayWidth : List String → Nat
  | [] => 0
  | element :: elements => element.length + arrayWidth elements

/-- The text of an array literal: one line, or one element a line behind one
    level of indentation if the elements are long. The text of the level is only
    needed in the second case. -/
def arrayText (indent : Indent) (elements : List String) : Except Overflow String :=
  if arrayWrapWidth < arrayWidth elements then do
    let lead ← indent.process 1
    return "array(\n" ++ lead ++ (",\n" ++ lead).intercalate elements ++ "\n)"
  else .ok ("array(" ++ ", ".intercalate elements ++ ")")

/-- A text with modifiers in front of it, if there are any. -/
def withModifiers (modifiers rest : String) : String :=
  if modifiers = "" then rest else modifiers ++ " " ++ rest

/-- The text of a method. An empty body leaves no line between the braces. -/
def methodText (signature body : String) : String :=
  if body = "" then signature ++ " \x7b\n\x7d"
  else signature ++ " \x7b\n" ++ body ++ "\n\x7d"

namespace Printers

/-- A class around its body, which is one level deep. -/
def classDecl (name : String) : Printer :=
  ⟨.node NodeKind.classDecl.name, fun scope _ => do
    scope.expect 1
    let body ← Layout.child 0 .keep (Settings.withSize 1)
    return "class " ++ name ++ " \x7b\n" ++ body ++ "\n\x7d"⟩

/-- A member behind its modifiers. -/
def member (name : String) : Printer :=
  ⟨.node NodeKind.member.name, fun scope _ => do
    scope.expect 1
    let modifiers ← Layout.child 0
    return withModifiers modifiers (variableText name ++ ";")⟩

/-- A method: modifiers, arguments, and a body that is one level deep. -/
def method (name : String) : Printer :=
  ⟨.node NodeKind.method.name, fun scope _ => do
    scope.expect 3
    let modifiers ← Layout.child 0
    let arguments ← Layout.child 1
    let body ← Layout.child 2 (.indentTo 1)
    let signature := withModifiers modifiers ("function " ++ name ++ "(" ++ arguments ++ ")")
    return methodText signature body⟩

/-- An assignment. -/
def assignment : Printer :=
  ⟨.node NodeKind.assignment.name, fun scope _ => do
    scope.expect 2
    let target ← Layout.child 0
    let value ← Layout.child 1
    return target ++ " = " ++ value ++ ";"⟩

/-- A single part between two fixed texts. -/
def affix (kind : NodeKind) (before after : String) : Printer :=
  ⟨.node kind.name, fun scope _ => do
    scope.expect 1
    let text ← Layout.child 0
    return before ++ text ++ after⟩

/-- An invocation. -/
def invocation : Printer :=
  ⟨.node NodeKind.invocation.name, fun scope _ => do
    scope.expect 2
    let callable ← Layout.child 0
    let parameters ← Layout.child 1
    return callable ++ "(" ++ parameters ++ ")"⟩

/-- A comparison: left, operator, right. -/
def comparison : Printer :=
  ⟨.node NodeKind.unary.name, fun scope _ => do
    scope.expect 3
    return " ".intercalate (← scope.texts)⟩

/-- A choice. -/
def conditional : Printer :=
  ⟨.node NodeKind.conditional.name, fun scope _ => do
    scope.expect 3
    let condition ← Layout.child 0
    let whenTrue ← Layout.child 1
    let whenFalse ← Layout.child 2
    return condition ++ " ? " ++ whenTrue ++ " : " ++ whenFalse⟩

/-- An array literal. -/
def array : Printer :=
  ⟨.node NodeKind.array.name, fun scope view => do
    Layout.ofSize (arrayText view.config.indent (← scope.texts))⟩

/-- An element of an array literal, behind its key if it shows one. -/
def element (key : Option String) : Printer :=
  ⟨.node NodeKind.arrayElement.name, fun scope _ => do
    scope.expect 1
    let value ← Layout.child 0
    match key with
    | some key => return "\"" ++ key ++ "\" => " ++ value
    | none => return value⟩

end Printers

/-- The outline of modifiers. -/
def modifiersOutline (modifiers : List Modifier) : Outline :=
  .separated " " (modifiers.map fun modifier => textNode .modifier modifier.word)

/-- The outline of an argument; its type is not written. -/
def argumentOutline (argument : Argument) : Outline :=
  textNode .argument (variableText argument.name)

/-- The outline of a target. -/
def targetOutline : Target → Outline
  | .variable name => textNode .variable (variableText name)
  | .access path => textNode .access (accessText path)

/-- The outline of a callable. -/
def callableOutline : Callable → Outline
  | .named name => textNode .namedCallable name
  | .constructor className => textNode .constructor ("new " ++ className)

mutual

/-- The outline of an expression. -/
def expressionOutline : Expression → Outline
  | .raw text _ => textNode .raw text
  | .access path => textNode .access (accessText path)
  | .variable name => textNode .variable (variableText name)
  | .invoke callable _ parameters =>
    .node Printers.invocation
      [callableOutline callable, .separated ", " (expressionOutlines parameters)]
  | .compare operator left right =>
    .node Printers.comparison
      [expressionOutline left, textNode .operator operator.sign, expressionOutline right]
  | .conditional condition whenTrue whenFalse =>
    .node Printers.conditional
      [expressionOutline condition, expressionOutline whenTrue, expressionOutline whenFalse]
  | .array isDictionary elements =>
    .node Printers.array (elementOutlines isDictionary elements)

/-- The outlines of several expressions. -/
def expressionOutlines : List Expression → List Outline
  | [] => []
  | expression :: expressions =>
    expressionOutline expression :: expressionOutlines expressions

/-- The outline of an element; only a dictionary shows its key. -/
def elementOutline (isDictionary : Bool) : Element → Outline
  | .entry key value =>
    .node (Printers.element (if isDictionary then key else none)) [expressionOutline value]

/-- The outlines of several elements. -/
def elementOutlines (isDictionary : Bool) : List Element → List Outline
  | [] => []
  | element :: elements =>
    elementOutline isDictionary element :: elementOutlines isDictionary elements

end

mutual

/-- The outline of a statement. -/
def statementOutline : Statement → Outline
  | .openTag => textNode .openTag "<?php"
  | .namespaceDecl name => textNode .namespaceDecl ("namespace " ++ name ++ ";")
  | .useDecl name => textNode .useDecl ("use " ++ name ++ ";")
  | .comment text => textNode .comment ("// " ++ text)
  | .doc comment => textNode .docComment (docText comment)
  | .classDecl name members =>
    .node (Printers.classDecl name) [.sequence (statementOutlines members)]
  | .member modifiers name _ => .node (Printers.member name) [modifiersOutline modifiers]
  | .method head body =>
    .node (Printers.method head.name)
      [ modifiersOutline head.modifiers,
        .separated ", " (head.arguments.map argumentOutline),
        .body (statementOutlines body) ]
  | .assign target value =>
    .node Printers.assignment [targetOutline target, expressionOutline value]
  | .returns value => .node (Printers.affix .returns "return " ";") [expressionOutline value]
  | .expression value =>
    .node (Printers.affix .expressionStatement "" ";") [expressionOutline value]
  | .blankLine => textNode .blankLine ""

/-- The outlines of several statements. -/
def statementOutlines : List Statement → List Outline
  | [] => []
  | statement :: statements => statementOutline statement :: statementOutlines statements

end

/-- The outline of the body of a method. -/
def bodyOutline (statements : List Statement) : Outline := .body (statementOutlines statements)

/-- The outline of a file. -/
def fileOutline (statements : List Statement) : Outline := .file (statementOutlines statements)

end Php

end ClassForge
