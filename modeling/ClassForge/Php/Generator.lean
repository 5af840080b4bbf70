import ClassForge.Php.Outline
import ClassForge.Spec.View

/-!
# Generated PHP Classes

The file that is generated from a spec: a class with one member for every
field, a constructor that takes all fields, and for all fields and for every
group a method that reads an object from an array and one that writes it to an
array.

A value that is missing from the array becomes null. A date is read from a
number or a text and written as a number of seconds.

## Main definitions

* `typeWord`: The PHP type of a field.
* `classBlocks`: The blocks of statements of a class.
* `fileStatements`: The statements of a file.
-/

namespace ClassForge

namespace Php

open Code Spec

/-- The remark that no generated file is to be edited. -/
def generatedNotice : String := "THIS FILE IS AUTO GENERATED"

/-- The PHP type of a field type; a type that is not known is used as it is. -/
def typeWord (type : String) : String :=
  match type with
  | "string" => "string"
  | "integer" => "int"
  | "float" => "float"
  | "double" => "double"
  | "boolean" => "bool"
  | "datetime" => "\\DateTimeImmutable"
  | "any" => "mixed"
  | other => other

/-- The type name of a field type. -/
def fieldType (type : String) : TypeName :=
  match type with
  | "string" => .string
  | "integer" | "float" | "double" => .number
  | "boolean" => .boolean
  | "any" => .any
  | other => ⟨typeWord other⟩

/-- The expression that makes a date of a source, which may be a number or a
    text. -/
def dateText (source : String) : String :=
  "\\date_create_immutable(date(\"Y-m-d H:i:s\", (is_numeric(" ++ source ++ ") ? " ++ source
    ++ " : strtotime(" ++ source ++ "))))"

/-- The expression that makes a field value of a source. -/
def readValue (type source : String) : Expression :=
  let raw := Expression.raw source .any
  match type with
  | "string" => .call "strval" .string [raw]
  | "integer" => .call "intval" .number [raw]
  | "float" => .call "floatval" .number [raw]
  | "double" => .call "doubleval" .number [raw]
  | "boolean" => .call "boolval" .boolean [raw]
  | "datetime" => .raw (dateText source) (fieldType type)
  | _ => raw

/-- The accessor of a field. -/
def fieldAccessor (field : Field) : Accessor := ⟨field.name, fieldType field.type⟩

/-- The member of the object itself that holds a field. -/
def ownField (className : String) (field : Field) : AccessPath :=
  thisAccess className [fieldAccessor field]

/-- The expression that a field is written with. -/
def writeValue (className : String) (field : Field) : Expression :=
  if field.type = "datetime" then
    .access (thisAccess className [fieldAccessor field, ⟨"getTimestamp()", .number⟩])
  else .access (ownField className field)

/-- The entry of the array that is read. -/
def jsonEntry (key : String) : String := "$json[\"" ++ key ++ "\"]"

/-- A statement behind its comment, unless that is empty. -/
def documented (comment : DocComment) (statement : Statement) : List Statement :=
  if isEmptyDoc comment then [statement] else [.doc comment, statement]

/-- The block of a member. -/
def memberBlock (field : Field) : List Statement :=
  documented ⟨field.comment, [varTag (typeWord field.type) none]⟩
    (.member [.publicAccess] field.name (fieldType field.type))

/-- The block of the constructor. -/
def constructorBlock (className : String) (fields : List Field) : List Statement :=
  documented
    ⟨none, fields.map fun field => paramTag (typeWord field.type) field.name field.comment⟩
    (.method
      ⟨[.publicAccess], "__construct", ⟨className⟩,
        fields.map fun field => ⟨field.name, fieldType field.type⟩⟩
      (fields.map fun field =>
        .assign (.access (ownField className field)) (.variable field.name)))

/-- The parameter of the constructor that a slot is read into. -/
def readSlot : Option FieldEntry → Expression
  | none => .null
  | some entry =>
    let source := jsonEntry entry.key
    .conditional (.call "isset" .boolean [.raw source .any])
      (readValue entry.field.type source) .null

/-- The block of a method that reads an object from an array. -/
def readerBlock (className : String) (view : DeserializeView) : List Statement :=
  documented ⟨none, [paramTag "array" "json" none, returnTag className]⟩
    (.method
      ⟨[.publicAccess, .static], methodName view.group "fromArray" "from", ⟨className⟩,
        [⟨"json", ⟨"array"⟩⟩]⟩
      [.returns (.construct className (view.slots.map readSlot))])

/-- The entry of the array that a field is written to. -/
def writeEntry (className : String) (entry : FieldEntry) : String × Expression :=
  (entry.key,
    .conditional (.call "is_null" .boolean [.access (ownField className entry.field)]) .null
      (writeValue className entry.field))

/-- The block of a method that writes an object to an array. -/
def writerBlock (className : String) (view : SerializeView) : List Statement :=
  documented ⟨none, [returnTag "array"]⟩
    (.method ⟨[.publicAccess], methodName view.group "toArray" "to", ⟨"array"⟩, []⟩
      [.returns (.dictionary (view.entries.map (writeEntry className)))])

/-- The blocks of a class: its members, the constructor, the readers, and the
    writers. -/
def classBlocks (className : String) (fields : List Field) : List (List Statement) :=
  fields.map memberBlock
    ++ [constructorBlock className fields]
    ++ (deserializeViews fields).map (readerBlock className)
    ++ (serializeViews fields).map (writerBlock className)

/-- Blocks with an empty line in front of each but the first. -/
def separateBlocks : List (List Statement) → List Statement
  | [] => []
  | block :: blocks => block ++ blocks.flatMap fun block => .blankLine :: block

/-- The statements of the file that is generated from a section and fields. -/
def fileStatements (php : PhpSection) (fields : List Field) : List Statement :=
  [ .openTag,
    .blankLine,
    .comment generatedNotice,
    .blankLine,
    .namespaceDecl php.namespaceName,
    .blankLine,
    .classDecl php.className (separateBlocks (classBlocks php.className fields)) ]

end Php

end ClassForge
