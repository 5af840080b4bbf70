/-!
# JSON Data

The data that a JSON text describes, over any kind of strings. A reader that
has to look at a text before it is known which of its strings matter keeps
them as they were spelled; everything else works with plain strings.

Objects keep their members as a list, repeated keys included. Looking up a key
finds the last member with that key, so that a later member replaces an
earlier one.

## Main definitions

* `Data`, `Member`: JSON data and the members of objects.
* `Value`: JSON data with plain strings.
* `Data.get?`, `Data.items?`, `Data.string?`: Looking into a value.
-/

namespace ClassForge

namespace Json

mutual

/-- JSON data whose strings are of type `σ`. Numbers are kept as written. -/
inductive Data (σ : Type) where
  /-- The null literal. -/
  | null
  /-- A truth value. -/
  | bool (value : Bool)
  /-- A number, as its characters. -/
  | number (literal : List Char)
  /-- A string. -/
  | string (text : σ)
  /-- An array with its items in order. -/
  | array (items : List (Data σ))
  /-- An object with its members in order. -/
  | object (members : List (Member σ))

/-- The members of objects. -/
inductive Member (σ : Type) where
  /-- A value under a key. -/
  | member (key : σ) (value : Data σ)

end

namespace Member

variable {σ : Type}

/-- The key of a member. -/
def key : Member σ → σ
  | .member key _ => key

/-- The value of a member. -/
def value : Member σ → Data σ
  | .member _ value => value

end Member

/-- JSON data with plain strings. -/
abbrev Value := Data String

namespace Data

/-- The value under a key, if this is an object that has it. The last of
    several members with the same key counts. -/
def get? (value : Value) (key : String) : Option Value :=
  match value with
  | .object members => (members.reverse.find? fun member => member.key = key).map Member.value
  | _ => none

/-- The items, if this is an array. -/
def items? : Value → Option (List Value)
  | .array items => some items
  | _ => none

/-- The text, if this is a string. -/
def string? : Value → Option String
  | .string text => some text
  | _ => none

/-- Whether this is an object. -/
def isObject : Value → Bool
  | .object _ => true
  | _ => false

/-- Whether this is the null literal. -/
def isNull : Value → Bool
  | .null => true
  | _ => false

end Data

end Json

end ClassForge
