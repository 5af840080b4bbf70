import ClassForge.Print.Outline
import ClassForge.TypeScript.Statement

/-!
# How TypeScript is Printed

The printers of the TypeScript grammar and the outline of every construct.

Statements that end in a semicolon share one printer, which joins its parts and
only treats a return specially. A comparison needs no printer of its own: it is
three parts with spaces between them.

## Main definitions

* `literalWrapWidth`, `literalWidth`: When a literal is too long for one line.
* `docText`, `literalText`: The texts of comments and of literals.
* `expressionOutline`, `statementOutline`: The outlines of expressions and
  statements.
* `fileOutline`: The outline of a file.
-/

namespace ClassForge

namespace TypeScript

open Code Print

/-- The fixed text of a node. -/
def textNode (kind : NodeKind) (content : String) : Outline := .text kind.name content

/-- The text of a path of accessors. -/
def accessText (path : AccessPath) : String := path.text "."

/-- A line of a documentation comment in its frame. -/
def docLine (line : String) : String := if line = "" then " *" else " * " ++ line

/-- The text of a documentation comment. -/
def docText (comment : DocComment) : String :=
  "/**\n" ++ "\n".intercalate ((docLines comment).map docLine) ++ "\n */"

/-- How many characters the elements of a literal may have on one line. -/
def literalWrapWidth : Nat := 80

/-- How many characters the elements of a literal have. Brackets and separators do
    not count. -/
def literalWidth : List String → Nat
  | [] => 0
  | element :: elements => element.length + literalWidth elements

/-- The text of a literal between its brackets: one line, or one element a line
    behind one level of indentation if the elements are long. The text of the
    level is only needed in the second case. -/
def literalText (opening closing : String) (indent : Indent) (elements : List String) :
    Except Overflow String :=
  if literalWidth elements ≤ literalWrapWidth then
    .ok (opening ++ ", ".intercalate elements ++ closing)
  else do
    let lead ← indent.process 1
    return opening ++ "\n" ++ ",\n".intercalate (elements.map (lead ++ ·)) ++ "\n" ++ closing

/-- A text with modifiers in front of it, if there are any. -/
def withModifiers (modifiers rest : String) : String :=
  if modifiers = "" then rest else modifiers ++ " " ++ rest

/-- The signature of a method, with the type of its result if it has one. -/
def signatureText (name arguments : String) (returns : Option TypeName) : String :=
  name ++ "(" ++ arguments ++ ")" ++
    match returns with
    | none => ""
    | some type => ": " ++ type.text

/-- The text of a method. An empty body leaves no line between the braces. -/
def methodText (signature body : String) : String :=
  if body = "" then signature ++ " \x7b\n\x7d"
  else signature ++ " \x7b\n" ++ body ++ "\n\x7d"

namespace Printers

/-- A class around its body, which is one level deep. -/
def classDecl (exported : Bool) (name : String) : Printer :=
  ⟨.node NodeKind.classDecl.name, fun scope _ => do
    scope.expect 1
    let body ← Layout.child 0 .keep (Settings.withSize 1)
    return (if exported then "export " else "") ++ "class " ++ name ++ " \x7b\n" ++ body
      ++ "\n\x7d"⟩

/-- A member behind its modifiers, with its type. -/
def member (name : String) (type : TypeName) : Printer :=
  ⟨.node NodeKind.member.name, fun scope _ => do
    scope.expect 1
    let modifiers ← Layout.child 0
    return withModifiers modifiers (name ++ ": " ++ type.text ++ ";")⟩

/-- A method: modifiers, arguments, and a body that is one level deep. -/
def method (name : String) (returns : Option TypeName) : Printer :=
  ⟨.node NodeKind.method.name, fun scope _ => do
    scope.expect 3
    let modifiers ← Layout.child 0
    let arguments ← Layout.child 1
    let body ← Layout.child 2 (.indentTo 1)
    return methodText (withModifiers modifiers (signatureText name arguments returns)) body⟩

/-- A statement that ends in a semicolon. The two parts of an assignment are
    joined by its sign; a return starts with its word. -/
def statement (kind : NodeKind) (arity : Nat) : Printer :=
  ⟨.node kind.name, fun scope _ => do
    scope.expect arity
    let parts ← scope.texts
    let line :=
      if kind = .returns then "return " ++ String.join parts else " = ".intercalate parts
    return line ++ ";"⟩

/-- An invocation. -/
def invocation : Printer :=
  ⟨.node NodeKind.invocation.name, fun scope _ => do
    scope.expect 2
    let callable ← Layout.child 0
    let parameters ← Layout.child 1
    return callable ++ "(" ++ parameters ++ ")"⟩

/-- A choice. -/
def conditional : Printer :=
  ⟨.node NodeKind.conditional.name, fun scope _ => do
    scope.expect 3
    let condition ← Layout.child 0
    let whenTrue ← Layout.child 1
    let whenFalse ← Layout.child 2
    return condition ++ " ? " ++ whenTrue ++ " : " ++ whenFalse⟩

/-- An array or object literal. -/
def literal (opening closing : String) : Printer :=
  ⟨.node NodeKind.array.name, fun scope view => do
    Layout.ofSize (literalText opening closing view.config.indent (← scope.texts))⟩

/-- An element of a literal, behind its key if it shows one. -/
def element (key : Option String) : Printer :=
  ⟨.node NodeKind.arrayElement.name, fun scope _ => do
    scope.expect 1
    let value ← Layout.child 0
    match key with
    | some key => return "\"" ++ key ++ "\": " ++ value
    | none => return value⟩

end Printers

/-- The outline of modifiers. -/
def modifiersOutline (modifiers : List Modifier) : Outline :=
  .separated " " (modifiers.map fun modifier => textNode .modifier modifier.word)

/-- The outline of an argument with its type. -/
def argumentOutline (argument : Argument) : Outline :=
  textNode .argument (argument.name ++ ": " ++ argument.type.text)

/-- The outline of a target. -/
def targetOutline : Target → Outline
  | .variable name => textNode .variable name
  | .access path => textNode .access (accessText path)

/-- The outline of a callable. -/
def callableOutline : Callable → Outline
  | .named name => textNode .namedCallable name
  | .constructor className => textNode .constructor ("new " ++ className)

mutual

/-- The outline of an expression. -/
def expressionOutline : Expression → Outline
  | .raw text _ => textNode .raw text
  | .access path => textNode .access (accessText path)
  | .variable name => textNode .variable name
  | .invoke callable _ parameters =>
    .node Printers.invocation
      [callableOutline callable, .separated ", " (expressionOutlines parameters)]
  | .compare operator left right =>
    .separated " "
      [expressionOutline left, textNode .operator operator.sign, expressionOutline right]
  | .conditional condition whenTrue whenFalse =>
    .node Printers.conditional
      [expressionOutline condition, expressionOutline whenTrue, expressionOutline whenFalse]
  | .array isDictionary elements =>
    .node (if isDictionary then Printers.literal "\x7b" "\x7d" else Printers.literal "[" "]")
      (elementOutlines isDictionary elements)

/-- The outlines of several expressions. -/
def expressionOutlines : List Expression → List Outline
  | [] => []
  | expression :: expressions =>
    expressionOutline expression :: expressionOutlines expressions

/-- The outline of an element; only a dictionary shows its key. -/
def elementOutline (isDictionary : Bool) : Element → Outline
  | .entry key value =>
    .node (Printers.element (if isDictionary then key else none)) [expressionOutline value]

/-- The outlines of several elements. -/
def elementOutlines (isDictionary : Bool) : List Element → List Outline
  | [] => []
  | element :: elements =>
    elementOutline isDictionary element :: elementOutlines isDictionary elements

end

mutual

/-- The outline of a statement. -/
def statementOutline : Statement → Outline
  | .comment text => textNode .comment ("// " ++ text)
  | .blockComment text => textNode .blockComment ("/* " ++ text ++ " */")
  | .doc comment => textNode .docComment (docText comment)
  | .classDecl exported name members =>
    .node (Printers.classDecl exported name) [.sequence (statementOutlines members)]
  | .member modifiers name type =>
    .node (Printers.member name type) [modifiersOutline modifiers]
  | .method head body =>
    .node (Printers.method head.name head.returns)
      [ modifiersOutline head.modifiers,
        .separated ", " (head.arguments.map argumentOutline),
        .body (statementOutlines body) ]
  | .assign target value =>
    .node (Printers.statement .assignment 2) [targetOutline target, expressionOutline value]
  | .returns value => .node (Printers.statement .returns 1) [expressionOutline value]
  | .expression value =>
    .node (Printers.statement .expressionStatement 1) [expressionOutline value]
  | .blankLine => textNode .blankLine ""

/-- The outlines of several statements. -/
def statementOutlines : List Statement → List Outline
  | [] => []
  | statement :: statements => statementOutline statement :: statementOutlines statements

end

/-- The outline of the body of a method. -/
def bodyOutline (statements : List Statement) : Outline := .body (statementOutlines statements)

/-- The outline of a file. -/
def fileOutline (statements : List Statement) : Outline := .file (statementOutlines statements)

end TypeScript

end ClassForge
