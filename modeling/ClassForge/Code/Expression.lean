import ClassForge.Code.AccessPath

/-!
# Expressions

The expressions that generated code is made of, the targets of assignments and
the arguments of methods. The grammars write them differently but mean the same
things by them, so they are shared.

## Main definitions

* `Comparison`: The comparison operators.
* `Callable`: What can be invoked.
* `Expression`, `Element`: Expressions, and the elements of array literals.
* `Target`: What can be assigned to.
* `Argument`: An argument of a method.
-/

namespace ClassForge

namespace Code

/-- The comparison operators; each of them gives a truth value. -/
inductive Comparison where
  | tripleEqual
  | doubleEqual
  | greaterThan
  | greaterThanOrEqual
  | lessThan
  | lessThanOrEqual
  | notTripleEqual
  | notDoubleEqual
  | instanceOf
  deriving DecidableEq

/-- The sign of an operator. -/
def Comparison.sign : Comparison → String
  | .tripleEqual => "==="
  | .doubleEqual => "=="
  | .greaterThan => ">"
  | .greaterThanOrEqual => ">="
  | .lessThan => "<"
  | .lessThanOrEqual => "<="
  | .notTripleEqual => "!=="
  | .notDoubleEqual => "!="
  | .instanceOf => "instanceof"

/-- What can be invoked. -/
inductive Callable where
  /-- A function or method by its name. -/
  | named (name : String)
  /-- The constructor of a class. -/
  | constructor (className : String)
  deriving DecidableEq

mutual

/-- Expressions. -/
inductive Expression where
  /-- Text to be used as it is. -/
  | raw (text : String) (type : TypeName)
  /-- A chain of member accesses. -/
  | access (path : AccessPath)
  /-- A variable. -/
  | variable (name : String)
  /-- An invocation with its parameters. -/
  | invoke (callable : Callable) (type : TypeName) (parameters : List Expression)
  /-- A comparison. -/
  | compare (operator : Comparison) (left right : Expression)
  /-- A choice between two expressions. -/
  | conditional (condition whenTrue whenFalse : Expression)
  /-- An array literal. Only a dictionary shows the keys of its elements. -/
  | array (isDictionary : Bool) (elements : List Element)

/-- Elements of array literals. -/
inductive Element where
  /-- A value under a key, if it has one. -/
  | entry (key : Option String) (value : Expression)

end

/-- The value of an element. -/
def Element.value : Element → Expression
  | .entry _ value => value

namespace Expression

/-- The null literal. -/
def null : Expression := .raw "null" .null

/-- A call of a named function. -/
def call (name : String) (type : TypeName) (parameters : List Expression) : Expression :=
  .invoke (.named name) type parameters

/-- A new instance of a class. -/
def construct (className : String) (parameters : List Expression) : Expression :=
  .invoke (.constructor className) ⟨className⟩ parameters

/-- A literal of values without keys. -/
def list (values : List Expression) : Expression :=
  .array false (values.map fun value => .entry none value)

/-- A literal of values under keys. -/
def dictionary (entries : List (String × Expression)) : Expression :=
  .array true (entries.map fun (key, value) => .entry (some key) value)

/-- The type of an expression, given the types of dictionary literals and of
    other literals. A choice has the type of its first branch. -/
def typeWith (literal : Bool → TypeName) : Expression → TypeName
  | .raw _ type => type
  | .access path => path.type
  | .variable _ => .any
  | .invoke _ type _ => type
  | .compare .. => .boolean
  | .conditional _ whenTrue _ => whenTrue.typeWith literal
  | .array isDictionary _ => literal isDictionary

end Expression

mutual

/-- The node of an expression. -/
def Expression.node : Expression → NodeTree
  | .raw .. => .ofKind .raw [TypeName.node]
  | .access path => .ofKind .access [path.node]
  | .variable _ => .ofKind .variable [identifierNode]
  | .invoke _ _ parameters => .ofKind .invocation (Expression.nodes parameters)
  | .compare _ left right => .ofKind .unary [left.node, right.node]
  | .conditional condition whenTrue whenFalse =>
    .ofKind .conditional [condition.node, whenTrue.node, whenFalse.node]
  | .array _ elements => .ofKind .array (Element.nodes elements)

/-- The nodes of several expressions. -/
def Expression.nodes : List Expression → List NodeTree
  | [] => []
  | expression :: expressions => expression.node :: Expression.nodes expressions

/-- The node of an element is that of its value. -/
def Element.node : Element → NodeTree
  | .entry _ value => value.node

/-- The nodes of several elements. -/
def Element.nodes : List Element → List NodeTree
  | [] => []
  | element :: elements => element.node :: Element.nodes elements

end

/-- What can be assigned to. -/
inductive Target where
  /-- A variable. -/
  | variable (name : String)
  /-- A member. -/
  | access (path : AccessPath)
  deriving DecidableEq

namespace Target

/-- The type of a target; a variable has none. -/
def type? : Target → Option TypeName
  | .variable _ => none
  | .access path => some path.type

/-- The node of a target. -/
def node : Target → NodeTree
  | .variable _ => .ofKind .variable [identifierNode]
  | .access path => .ofKind .access [path.node]

end Target

/-- An argument of a method. -/
structure Argument where
  /-- The name of the argument. -/
  name : String
  /-- The type of the argument. -/
  type : TypeName
  deriving DecidableEq

/-- The node of an argument. -/
def Argument.node : NodeTree := .ofKind .argument [identifierNode, TypeName.node]

end Code

end ClassForge
