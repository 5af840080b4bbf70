import ClassForge.Json.Document
import ClassForge.Json.Number

/-!
# JSON Values

From documents to values and from values to text.

A value is written compactly: no blanks, and strings with only those characters
escaped that have to be.

## Main definitions

* `maxDepth`: How deeply arrays and objects may be nested.
* `Data.value?`: The value of a document.
* `value?`: The value of a text.
* `Data.write`: The compact text of a value.

## Theorems

* `document?_write`: The document of a written value is that of its characters.
-/

namespace ClassForge

namespace Json

/-- How deeply arrays and objects may be nested in a value, the outermost
    included. -/
def maxDepth : Nat := 127

mutual

/-- The value of a document that may be nested `depth` deep. -/
def Data.valueWithin? : Document → (depth : Nat) → Option Value
  | .null, _ => some .null
  | .bool value, _ => some (.bool value)
  | .number literal, _ => if isInRange literal then some (.number literal) else none
  | .string spelling, _ => (Spelling.text? spelling).map .string
  | .array _, 0 => none
  | .array items, depth + 1 => (Data.valuesWithin? items depth).map .array
  | .object _, 0 => none
  | .object members, depth + 1 => (Data.membersWithin? members depth).map .object

/-- The values of several documents. -/
def Data.valuesWithin? : List Document → (depth : Nat) → Option (List Value)
  | [], _ => some []
  | item :: items, depth => do
    let value ← Data.valueWithin? item depth
    let values ← Data.valuesWithin? items depth
    return value :: values

/-- A member with a plain key and value. -/
def Data.memberWithin? : Member Spelling → (depth : Nat) → Option (Member String)
  | .member key value, depth => do
    let key ← Spelling.text? key
    let value ← Data.valueWithin? value depth
    return .member key value

/-- Members with plain keys and values. -/
def Data.membersWithin? :
    List (Member Spelling) → (depth : Nat) → Option (List (Member String))
  | [], _ => some []
  | member :: members, depth => do
    let plain ← Data.memberWithin? member depth
    let plains ← Data.membersWithin? members depth
    return plain :: plains

end

/-- The value of a document, if it can be taken at its word. -/
def Data.value? (document : Document) : Option Value := document.valueWithin? maxDepth

/-- The value of a text, if it is a JSON text that can be taken at its word. -/
def value? (text : String) : Option Value := do
  let document ← document? text
  document.value?

/-- A digit below sixteen in lower case. -/
def hexChar (digit : Nat) : Char := Nat.digitChar digit

/-- A character as it stands in a written string. -/
def writeChar (c : Char) : List Char :=
  if c = '"' then ['\\', '"']
  else if c = '\\' then ['\\', '\\']
  else if c = Char.ofNat 8 then ['\\', 'b']
  else if c = '\t' then ['\\', 't']
  else if c = '\n' then ['\\', 'n']
  else if c = Char.ofNat 12 then ['\\', 'f']
  else if c = '\r' then ['\\', 'r']
  else if c.toNat < 0x20 then
    ['\\', 'u', '0', '0', hexChar (c.toNat / 16), hexChar (c.toNat % 16)]
  else [c]

/-- A string between its quotes. -/
def writeString (text : String) : List Char :=
  '"' :: text.toList.flatMap writeChar ++ ['"']

mutual

/-- The compact text of a value, as characters. -/
def Data.chars : Value → List Char
  | .null => "null".toList
  | .bool value => if value then "true".toList else "false".toList
  | .number literal => literal
  | .string text => writeString text
  | .array items => '[' :: Data.itemsChars items ++ [']']
  | .object members => '\x7b' :: Data.membersChars members ++ ['\x7d']

/-- The items of an array with commas between them. -/
def Data.itemsChars : List Value → List Char
  | [] => []
  | [item] => item.chars
  | item :: items => item.chars ++ ',' :: Data.itemsChars items

/-- A member with the colon behind its key. -/
def Data.memberChars : Member String → List Char
  | .member key value => writeString key ++ ':' :: value.chars

/-- The members of an object with commas between them. -/
def Data.membersChars : List (Member String) → List Char
  | [] => []
  | [member] => Data.memberChars member
  | member :: members => Data.memberChars member ++ ',' :: Data.membersChars members

end

/-- The compact text of a value. -/
def Data.write (value : Value) : String := String.ofList value.chars

/-- The document of a written value is read from its characters. -/
theorem document?_write (value : Value) :
    document? value.write = (do
      let tokens ← tokens? value.chars
      let reader ← tokens.foldlM Reader.step (.value [])
      reader.finish) := by
  rw [document?, Data.write, String.toList_ofList]

end Json

end ClassForge
