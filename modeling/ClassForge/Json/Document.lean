import ClassForge.Json.Data
import ClassForge.Json.Token

/-!
# JSON Documents

The data of a JSON text with its strings as they were spelled. The reader goes
through the tokens once, with the containers that are still open on a stack,
so nesting is limited by nothing but the text.

A document becomes a value only if it can be taken at its word: every string
spells characters, every number is in range, and arrays and objects are not
nested too deeply. A consumer that skips a part of a document never asks this
of that part.

## Main definitions

* `Document`: JSON data with strings as they were spelled.
* `document?`: The document of a text.
* `Spelling.text?`: The text that a string spells.
-/

namespace ClassForge

namespace Json

/-- JSON data with strings as they were spelled. -/
abbrev Document := Data Spelling

/-- A container that is still open, with what it holds so far in reverse. -/
inductive Container where
  /-- An array. -/
  | array (items : List Document)
  /-- An object in which the value under a key is being read. -/
  | object (members : List (Member Spelling)) (key : Spelling)

/-- What the reader expects next, below the containers that are still open. -/
inductive Reader where
  /-- A value. -/
  | value (stack : List Container)
  /-- A value, or the end of an array that was just opened. -/
  | firstItem (stack : List Container)
  /-- A key, or the end of an object that was just opened. -/
  | firstKey (stack : List Container)
  /-- A key behind these members. -/
  | key (members : List (Member Spelling)) (stack : List Container)
  /-- The colon behind a key. -/
  | colon (members : List (Member Spelling)) (key : Spelling) (stack : List Container)
  /-- What follows a value that is complete. -/
  | after (value : Document) (stack : List Container)

namespace Reader

/-- A token where a value has to start. -/
def stepValue (stack : List Container) : Token → Option Reader
  | .null => some (.after .null stack)
  | .bool truth => some (.after (.bool truth) stack)
  | .number literal => some (.after (.number literal) stack)
  | .string spelling => some (.after (.string spelling) stack)
  | .openArray => some (.firstItem stack)
  | .openObject => some (.firstKey stack)
  | _ => none

/-- One token. -/
def step (reader : Reader) (token : Token) : Option Reader :=
  match reader with
  | .value stack => stepValue stack token
  | .firstItem stack =>
    if token = .closeArray then some (.after (.array []) stack)
    else stepValue (.array [] :: stack) token
  | .firstKey stack =>
    match token with
    | .closeObject => some (.after (.object []) stack)
    | .string name => some (.colon [] name stack)
    | _ => none
  | .key members stack =>
    match token with
    | .string name => some (.colon members name stack)
    | _ => none
  | .colon members name stack =>
    if token = .colon then some (.value (.object members name :: stack)) else none
  | .after _ [] => none
  | .after data (.array items :: stack) =>
    match token with
    | .comma => some (.value (.array (data :: items) :: stack))
    | .closeArray => some (.after (.array (data :: items).reverse) stack)
    | _ => none
  | .after data (.object members name :: stack) =>
    match token with
    | .comma => some (.key (.member name data :: members) stack)
    | .closeObject => some (.after (.object (.member name data :: members).reverse) stack)
    | _ => none

/-- The document at the end of the tokens. -/
def finish : Reader → Option Document
  | .after data [] => some data
  | _ => none

end Reader

/-- The document of a text, if it is one. -/
def document? (text : String) : Option Document := do
  let tokens ← tokens? text.toList
  let reader ← tokens.foldlM Reader.step (.value [])
  reader.finish

/-- Whether a code unit is the first half of a pair. -/
def isHighHalf (code : Nat) : Bool := 0xD800 ≤ code && code ≤ 0xDBFF

/-- Whether a code unit is the second half of a pair. -/
def isLowHalf (code : Nat) : Bool := 0xDC00 ≤ code && code ≤ 0xDFFF

/-- The character of a pair of halves. -/
def pairChar (high low : Nat) : Char :=
  Char.ofNat (0x10000 + (high - 0xD800) * 0x400 + (low - 0xDC00))

namespace Spelling

/-- The characters that a string spells. Half of a pair without its other half
    spells none. -/
def chars? : Spelling → Option (List Char)
  | [] => some []
  | .char c :: rest => (chars? rest).map (c :: ·)
  | .unit code :: rest =>
    if isHighHalf code then
      match rest with
      | .unit low :: rest =>
        if isLowHalf low then (chars? rest).map (pairChar code low :: ·) else none
      | _ => none
    else if isLowHalf code then none
    else (chars? rest).map (Char.ofNat code :: ·)

/-- The text that a string spells. -/
def text? (spelling : Spelling) : Option String := (chars? spelling).map String.ofList

end Spelling

end Json

end ClassForge
