import ClassForge.Code.DocComment
import ClassForge.Code.Expression

/-!
# PHP Statements

The statements of generated PHP files.

## Main definitions

* `Modifier`: What can stand in front of a member or a method.
* `MethodHead`: Everything about a method but its body.
* `Statement`: The statements.
* `Statement.node`: The node view of a statement.
* `varTag`, `paramTag`, `returnTag`: The tags of documentation comments.
* `docLines`, `isEmptyDoc`: The lines of a documentation comment, and if it has any.
-/

namespace ClassForge

namespace Php

open Code

/-- What can stand in front of a member or a method. -/
inductive Modifier where
  | publicAccess
  | protectedAccess
  | privateAccess
  | static
  deriving DecidableEq

/-- The word of a modifier. -/
def Modifier.word : Modifier → String
  | .publicAccess => "public"
  | .protectedAccess => "protected"
  | .privateAccess => "private"
  | .static => "static"

/-- The modifier with a word. -/
def Modifier.ofWord? (word : String) : Option Modifier :=
  let all : List Modifier := [.publicAccess, .protectedAccess, .privateAccess, .static]
  all.find? fun modifier => modifier.word = word

/-- Everything about a method but its body. -/
structure MethodHead where
  /-- The modifiers in order. -/
  modifiers : List Modifier
  /-- The name. -/
  name : String
  /-- The type of the result, which is not written. -/
  returns : TypeName
  /-- The arguments in order. -/
  arguments : List Argument
  deriving DecidableEq

/-- Statements. -/
inductive Statement where
  /-- The tag that opens a file. -/
  | openTag
  /-- The namespace of a file. -/
  | namespaceDecl (name : String)
  /-- A name used from elsewhere. -/
  | useDecl (name : String)
  /-- A comment on one line. -/
  | comment (text : String)
  /-- A documentation comment. -/
  | doc (comment : DocComment)
  /-- A class with its members and methods. -/
  | classDecl (name : String) (members : List Statement)
  /-- A member of a class. -/
  | member (modifiers : List Modifier) (name : String) (type : TypeName)
  /-- A method of a class. -/
  | method (head : MethodHead) (body : List Statement)
  /-- An assignment. -/
  | assign (target : Target) (value : Expression)
  /-- A return with its value. -/
  | returns (value : Expression)
  /-- An expression by itself. -/
  | expression (value : Expression)
  /-- An empty line. -/
  | blankLine

/-- The kinds of nodes of the grammar. -/
def nodeKinds : List NodeKind :=
  [ .openTag, .namespaceDecl, .useDecl, .comment, .docComment, .classDecl, .member, .method,
    .methodBody, .modifiers, .modifier, .argument, .argumentList, .assignment, .returns,
    .expressionStatement, .blankLine, .raw, .access, .variable, .invocation, .parameterList,
    .unary, .operator, .conditional, .array, .arrayElement, .namedCallable, .constructor ]

/-- The type of an expression; every literal is an array. -/
def typeOf (expression : Expression) : TypeName := expression.typeWith fun _ => ⟨"array"⟩

/-- Words with spaces between them; a missing word leaves no gap. -/
def joinWords (words : List (Option String)) : String := " ".intercalate (words.filterMap id)

/-- The tag of a member: its type and a description. -/
def varTag (type : String) (description : Option String) : DocTag :=
  ⟨"var", joinWords [some type, description]⟩

/-- The tag of an argument: its type, its variable and a description. -/
def paramTag (type name : String) (description : Option String) : DocTag :=
  ⟨"param", joinWords [some type, some ("$" ++ name), description]⟩

/-- The tag of a result. -/
def returnTag (type : String) : DocTag := ⟨"return", type⟩

/-- The lines of a documentation comment: its description, if it has one, and its
    tags. An empty line divides them, if there are both. -/
def docLines (comment : DocComment) : List String :=
  let tagged := comment.tags.map DocTag.line
  match comment.description with
  | none => tagged
  | some description =>
    if comment.tags = [] then [description] else description :: "" :: tagged

/-- Whether a documentation comment has nothing to say. -/
def isEmptyDoc (comment : DocComment) : Bool :=
  comment.description.isNone && comment.tags.isEmpty

/-- The accessor of the object itself. -/
def thisAccessor (className : String) : Accessor := ⟨"$this", ⟨className⟩⟩

/-- A path that starts at the object itself. -/
def thisAccess (className : String) (segments : List Accessor) : AccessPath :=
  ⟨thisAccessor className, segments⟩

mutual

/-- The node of a statement. The name of a class is no node of its own. -/
def Statement.node : Statement → NodeTree
  | .openTag => .ofKind .openTag []
  | .namespaceDecl _ => .ofKind .namespaceDecl []
  | .useDecl _ => .ofKind .useDecl []
  | .comment _ => .ofKind .comment []
  | .doc _ => .ofKind .docComment []
  | .classDecl _ members => .ofKind .classDecl (Statement.nodes members)
  | .member .. => .ofKind .member [identifierNode, TypeName.node]
  | .method head body =>
    .ofKind .method
      ([identifierNode, TypeName.node] ++ head.arguments.map (fun _ => Argument.node)
        ++ [.ofKind .methodBody (Statement.nodes body)])
  | .assign target value => .ofKind .assignment [target.node, value.node]
  | .returns value => .ofKind .returns [value.node]
  | .expression value => .ofKind .expressionStatement [value.node]
  | .blankLine => .ofKind .blankLine []

/-- The nodes of several statements. -/
def Statement.nodes : List Statement → List NodeTree
  | [] => []
  | statement :: statements => statement.node :: Statement.nodes statements

end

/-- The node of the body of a method. -/
def bodyNode (statements : List Statement) : NodeTree :=
  .ofKind .methodBody (Statement.nodes statements)

end Php

end ClassForge
