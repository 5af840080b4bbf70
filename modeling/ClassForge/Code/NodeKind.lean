/-!
# Node Kinds

The kinds of nodes that the grammars are made of. Both grammars share most of
them; which kinds a grammar has is said by the grammar. A logical kind groups
other nodes and has no text of its own.

The module also has the plain view of a piece of code as a tree of named
nodes, which is the same for every grammar.

## Main definitions

* `NodeKind`: The kinds.
* `NodeTree`: A named node with the nodes below it.
* `NodeTree.count`: How many nodes a tree has.
-/

namespace ClassForge

namespace Code

/-- The kinds of nodes of all grammars. -/
inductive NodeKind where
  | openTag
  | namespaceDecl
  | useDecl
  | comment
  | blockComment
  | docComment
  | classDecl
  | member
  | method
  | methodBody
  | modifiers
  | modifier
  | argument
  | argumentList
  | returnType
  | assignment
  | returns
  | expressionStatement
  | blankLine
  | raw
  | access
  | variable
  | invocation
  | parameterList
  | unary
  | operator
  | conditional
  | array
  | arrayElement
  | namedCallable
  | constructor
  deriving DecidableEq

namespace NodeKind

/-- The name of a kind. -/
def name : NodeKind → String
  | .openTag => "OpenTag"
  | .namespaceDecl => "Namespace"
  | .useDecl => "Use"
  | .comment => "Comment"
  | .blockComment => "BlockComment"
  | .docComment => "DocComment"
  | .classDecl => "Class"
  | .member => "Member"
  | .method => "Method"
  | .methodBody => "MethodBody"
  | .modifiers => "Modifiers"
  | .modifier => "Modifier"
  | .argument => "Argument"
  | .argumentList => "ArgumentList"
  | .returnType => "ReturnType"
  | .assignment => "Assignment"
  | .returns => "Return"
  | .expressionStatement => "ExpressionStatement"
  | .blankLine => "BlankLine"
  | .raw => "Raw"
  | .access => "Access"
  | .variable => "Variable"
  | .invocation => "Invocation"
  | .parameterList => "ParameterList"
  | .unary => "Unary"
  | .operator => "Operator"
  | .conditional => "Conditional"
  | .array => "Array"
  | .arrayElement => "ArrayElement"
  | .namedCallable => "NamedCallable"
  | .constructor => "Constructor"

/-- Whether nodes of this kind only group others and have no text of their
    own. -/
def isLogical : NodeKind → Bool
  | .methodBody | .modifiers | .argumentList | .parameterList => true
  | _ => false

/-- The kind with this name among the kinds of a grammar. -/
def named? (kinds : List NodeKind) (name : String) : Option NodeKind :=
  kinds.find? fun kind => kind.name = name

end NodeKind

/-- A named node with the nodes below it. -/
inductive NodeTree where
  /-- A node, whether it is logical, and the nodes below it. -/
  | node (name : String) (isLogical : Bool) (children : List NodeTree)

namespace NodeTree

/-- A node without nodes below it. -/
def leaf (name : String) : NodeTree := .node name false []

/-- A node of a kind. -/
def ofKind (kind : NodeKind) (children : List NodeTree) : NodeTree :=
  .node kind.name kind.isLogical children

mutual

/-- The node itself and all nodes below it. -/
def count : NodeTree → Nat
  | .node _ _ children => countAll children + 1

/-- The nodes of several trees. -/
def countAll : List NodeTree → Nat
  | [] => 0
  | tree :: trees => count tree + countAll trees

end

end NodeTree

end Code

end ClassForge
