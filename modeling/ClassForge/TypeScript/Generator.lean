import ClassForge.Spec.View
import ClassForge.TypeScript.Outline

/-!
# Generated TypeScript Classes

The file that is generated from a spec: an exported class with one member for
every field, a constructor that takes all fields, and for all fields and for
every group a method that reads an object from plain data and one that writes
it to plain data.

A value that is missing from the data becomes null. A date is read from a
number of seconds.

## Main definitions

* `typeWord`: The TypeScript type of a field.
* `classBlocks`: The blocks of statements of a class.
* `fileStatements`: The statements of a file.
-/

namespace ClassForge

namespace TypeScript

open Code Spec

/-- The remark that no generated file is to be edited. -/
def generatedNotice : String := "THIS FILE IS AUTO GENERATED"

/-- The directive that keeps linters away from generated files. -/
def lintDirective : String := "eslint-disable"

/-- The TypeScript type of a field type; a type that is not known is used as it
    is. -/
def typeWord (type : String) : String :=
  match type with
  | "string" => "string"
  | "integer" | "float" | "double" => "number"
  | "boolean" => "boolean"
  | "datetime" => "Date"
  | "any" => "any"
  | other => other

/-- The type name of a field. -/
def fieldType (field : Field) : TypeName := ⟨typeWord field.type⟩

/-- The expression that makes a field value of a source. -/
def readValue (type source : String) : Expression :=
  match type with
  | "string" => .raw ("(" ++ source ++ ").toString()") .string
  | "integer" => .call "parseInt" .number [.raw source .any]
  | "float" | "double" => .call "parseFloat" .number [.raw source .any]
  | "boolean" => .raw ("!!(" ++ source ++ ")") .boolean
  | "datetime" => .raw ("new Date(parseInt(" ++ source ++ ") * 1000)") ⟨"Date"⟩
  | _ => .raw source .any

/-- The accessor of a field. -/
def fieldAccessor (field : Field) : Accessor := ⟨field.name, fieldType field⟩

/-- The member of the object itself that holds a field. -/
def ownField (className : String) (field : Field) : AccessPath :=
  thisAccess className [fieldAccessor field]

/-- The expression that a field is written with. -/
def writeValue (className : String) (field : Field) : Expression :=
  if field.type = "datetime" then
    .access (thisAccess className [fieldAccessor field, ⟨"getSeconds()", .number⟩])
  else .access (ownField className field)

/-- The entry of the data that is read. -/
def jsonEntry (key : String) : String := "json[\"" ++ key ++ "\"]"

/-- A statement behind its comment, unless that is empty. -/
def documented (comment : DocComment) (statement : Statement) : List Statement :=
  if isEmptyDoc comment then [statement] else [.doc comment, statement]

/-- The block of a member. -/
def memberBlock (field : Field) : List Statement :=
  documented ⟨field.comment, []⟩ (.member [.publicAccess] field.name (fieldType field))

/-- The block of the constructor. -/
def constructorBlock (className : String) (fields : List Field) : List Statement :=
  documented ⟨none, fields.map fun field => paramTag field.name field.comment⟩
    (.method
      ⟨[.publicAccess], "constructor", none, fields.map fun field => ⟨field.name, fieldType field⟩⟩
      (fields.map fun field =>
        .assign (.access (ownField className field)) (.variable field.name)))

/-- The parameter of the constructor that a slot is read into. -/
def readSlot : Option FieldEntry → Expression
  | none => .null
  | some entry =>
    .conditional
      (.call "json.hasOwnProperty" .boolean [.raw ("'" ++ entry.key ++ "'") .string])
      (readValue entry.field.type (jsonEntry entry.key)) .null

/-- The block of a method that reads an object from plain data. -/
def readerBlock (className : String) (view : DeserializeView) : List Statement :=
  [ .method
      ⟨[.publicAccess, .static], methodName view.group "fromObject" "from", some ⟨className⟩,
        [⟨"json", .any⟩]⟩
      [.returns (.construct className (view.slots.map readSlot))] ]

/-- The entry of the data that a field is written to. -/
def writeEntry (className : String) (entry : FieldEntry) : String × Expression :=
  (entry.key,
    .conditional (.compare .tripleEqual (.access (ownField className entry.field)) .null) .null
      (writeValue className entry.field))

/-- The block of a method that writes an object to plain data. -/
def writerBlock (className : String) (view : SerializeView) : List Statement :=
  [ .method ⟨[.publicAccess], methodName view.group "toObject" "to", some .any, []⟩
      [.returns (.dictionary (view.entries.map (writeEntry className)))] ]

/-- The blocks of a class: its members, the constructor, the readers, and the
    writers. -/
def classBlocks (className : String) (fields : List Field) : List (List Statement) :=
  fields.map memberBlock
    ++ [constructorBlock className fields]
    ++ (deserializeViews fields).map (readerBlock className)
    ++ (serializeViews fields).map (writerBlock className)

/-- The statements so far with one more block, behind an empty line unless it is
    the first. -/
def addBlock (statements block : List Statement) : List Statement :=
  match statements with
  | [] => block
  | _ => statements ++ .blankLine :: block

/-- The statements of the file that is generated from a section and fields. -/
def fileStatements (ts : TsSection) (fields : List Field) : List Statement :=
  [ .comment generatedNotice,
    .blankLine,
    .blockComment lintDirective,
    .blankLine,
    .classDecl true ts.className ((classBlocks ts.className fields).foldl addBlock []) ]

end TypeScript

end ClassForge
