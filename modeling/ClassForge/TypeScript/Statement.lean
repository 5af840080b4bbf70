import ClassForge.Code.DocComment
import ClassForge.Code.Expression

/-!
# TypeScript Statements

The statements of generated TypeScript files.

## Main definitions

* `Modifier`: What can stand in front of a member or a method.
* `MethodHead`: Everything about a method but its body.
* `Statement`: The statements.
* `Statement.node`: The node view of a statement.
* `paramTag`: The tag of an argument in a documentation comment.
* `docLines`, `isEmptyDoc`: The lines of a documentation comment, and if it has any.
-/

namespace ClassForge

namespace TypeScript

open Code

/-- What can stand in front of a member or a method. -/
inductive Modifier where
  | publicAccess
  | protectedAccess
  | privateAccess
  | static
  | readonly
  deriving DecidableEq

/-- The word of a modifier. -/
def Modifier.word : Modifier → String
  | .publicAccess => "public"
  | .protectedAccess => "protected"
  | .privateAccess => "private"
  | .static => "static"
  | .readonly => "readonly"

/-- The modifier with a word. -/
def Modifier.ofWord? (word : String) : Option Modifier :=
  let all : List Modifier :=
    [.publicAccess, .protectedAccess, .privateAccess, .static, .readonly]
  all.find? fun modifier => modifier.word = word

/-- Everything about a method but its body. -/
structure MethodHead where
  /-- The modifiers in order. -/
  modifiers : List Modifier
  /-- The name. -/
  name : String
  /-- The type of the result; a constructor has none. -/
  returns : Option TypeName
  /-- The arguments in order. -/
  arguments : List Argument
  deriving DecidableEq

/-- Statements. -/
inductive Statement where
  /-- A comment on one line. -/
  | comment (text : String)
  /-- A comment between its own delimiters. -/
  | blockComment (text : String)
  /-- A documentation comment. -/
  | doc (comment : DocComment)
  /-- A class with its members and methods, visible to other files or not. -/
  | classDecl (exported : Bool) (name : String) (members : List Statement)
  /-- A member of a class. -/
  | member (modifiers : List Modifier) (name : String) (type : TypeName)
  /-- A method of a class. -/
  | method (head : MethodHead) (body : List Statement)
  /-- An assignment. -/
  | assign (target : Target) (value : Expression)
  /-- A return with its value. -/
  | returns (value : Expression)
  /-- An expression by itself. -/
  | expression (value : Expression)
  /-- An empty line. -/
  | blankLine

/-- The kinds of nodes of the grammar. -/
def nodeKinds : List NodeKind :=
  [ .comment, .blockComment, .docComment, .classDecl, .member, .method, .methodBody,
    .modifiers, .modifier, .argument, .argumentList, .returnType, .assignment, .returns,
    .expressionStatement, .blankLine, .raw, .access, .variable, .invocation, .parameterList,
    .unary, .operator, .conditional, .array, .arrayElement, .namedCallable, .constructor ]

/-- The type of an expression. A dictionary is an object of any shape, any other
    literal an array of anything. -/
def typeOf (expression : Expression) : TypeName :=
  expression.typeWith fun isDictionary => if isDictionary then .any else ⟨"any[]"⟩

/-- The tag of an argument: its name and a description. -/
def paramTag (name : String) : Option String → DocTag
  | none => ⟨"param", name⟩
  | some description => ⟨"param", name ++ " " ++ description⟩

/-- The lines of a documentation comment: its description, if it has one, and its
    tags. An empty line divides them, if there are both. -/
def docLines (comment : DocComment) : List String :=
  let tagged := comment.tags.map DocTag.line
  match comment.description with
  | none => tagged
  | some description =>
    if comment.tags = [] then [description] else description :: "" :: tagged

/-- Whether a documentation comment has nothing to say. -/
def isEmptyDoc (comment : DocComment) : Bool :=
  comment.description.isNone && comment.tags.isEmpty

/-- The accessor of the object itself. -/
def thisAccessor (className : String) : Accessor := ⟨"this", ⟨className⟩⟩

/-- A path that starts at the object itself. -/
def thisAccess (className : String) (segments : List Accessor) : AccessPath :=
  ⟨thisAccessor className, segments⟩

/-- The nodes of a method's name and of its result type, if it has one. -/
def MethodHead.leadingNodes (head : MethodHead) : List NodeTree :=
  identifierNode :: head.returns.toList.map fun _ => TypeName.node

mutual

/-- The node of a statement. -/
def Statement.node : Statement → NodeTree
  | .comment _ => .ofKind .comment []
  | .blockComment _ => .ofKind .blockComment []
  | .doc _ => .ofKind .docComment []
  | .classDecl _ _ members => .ofKind .classDecl (identifierNode :: Statement.nodes members)
  | .member .. => .ofKind .member [identifierNode, TypeName.node]
  | .method head body =>
    .ofKind .method
      (head.leadingNodes ++ head.arguments.map (fun _ => Argument.node)
        ++ [.ofKind .methodBody (Statement.nodes body)])
  | .assign target value => .ofKind .assignment [target.node, value.node]
  | .returns value => .ofKind .returns [value.node]
  | .expression value => .ofKind .expressionStatement [value.node]
  | .blankLine => .ofKind .blankLine []

/-- The nodes of several statements. -/
def Statement.nodes : List Statement → List NodeTree
  | [] => []
  | statement :: statements => statement.node :: Statement.nodes statements

end

/-- The node of the body of a method. -/
def bodyNode (statements : List Statement) : NodeTree :=
  .ofKind .methodBody (Statement.nodes statements)

end TypeScript

end ClassForge
