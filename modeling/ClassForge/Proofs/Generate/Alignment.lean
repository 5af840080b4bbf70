import ClassForge.Generate.Code
import ClassForge.Proofs.Spec.Groups
import Mathlib.Data.List.Forall2

/-!
# Fields, Arguments and Parameters

A generated class mentions its fields in several lists: the arguments of the
constructor, the assignments in its body, and the parameters with which each
reader calls it. The lists are made separately and only meet by position, so a
class whose lists are out of step would be generated without complaint and store
values in the wrong members. They are in step: the theorem at the end pairs each
list with the fields, one by one.

The two grammars have statements of their own, but what matters here is the same
in both, so it is said about a common view of methods. A `Shape` has what is
left of a grammar: its names, the text that reads an entry, the test whether the
entry is there, and a table of conversions by type. A shape is written down
without looking at a generator. That the generators follow it is a result,
`readValue_eq`, and not part of what is expected of them.

The work is in the readers of groups, whose slots are filled out of order and
more than once. That is `deserializeViews_eq`; what remains is to find the
methods among the statements of the class.

## Main definitions

* `Method`, `Action`: The common view of methods and of their statements.
* `Conversion`: What is made of an entry of some type.
* `Shape`: What a grammar adds to the common view.
* `IsConstructor`, `IsReader`: What is expected of a constructor and of a
  reader.
* `Aligned`: Methods of a class that are in step with its fields.

## Theorems

* `Php.readValue_eq`, `TypeScript.readValue_eq`: Generators convert as their tables
  say.
* `reads_slotIn`: What is read from a slot.
* `methods_of_blocks`: The methods of a class, made from the views of its fields.
* `aligned_of_views`: Methods made from the views of the fields are in step.
* `generated_methods_aligned`: The methods of a generated class are in step with
  the fields of its spec.
-/

namespace ClassForge

namespace Generate

open Code Spec

/-- A statement of a method, as far as it matters here. -/
inductive Action where
  /-- An assignment. -/
  | assign (target : Target) (value : Expression)
  /-- A return with its value. -/
  | returns (value : Expression)
  /-- Anything else. -/
  | other

/-- A method of either grammar. -/
structure Method where
  /-- The name. -/
  name : String
  /-- Whether it belongs to the class and not to its objects. -/
  isStatic : Bool
  /-- The names of the arguments in order. -/
  arguments : List String
  /-- The statements in order. -/
  body : List Action

/-- What is made of the text that reads an entry. -/
inductive Conversion where
  /-- The entry as it is. -/
  | none
  /-- A call with the entry as its argument. -/
  | call (function : String) (type : TypeName)
  /-- A text with the entry put between each two of its pieces. -/
  | around (pieces : List String) (type : TypeName)

/-- The converted entry. -/
def Conversion.applied (entry : String) : Conversion → Expression
  | .none => .raw entry .any
  | .call function type => .call function type [.raw entry .any]
  | .around pieces type => .raw (entry.intercalate pieces) type

/-- The names that a grammar gives, and how it reads an entry of keyed data. -/
structure Shape where
  /-- The name of the constructor. -/
  constructorName : String
  /-- The name of the reader of all fields. -/
  readerName : String
  /-- What the object calls itself. -/
  self : String
  /-- The text that reads the entry under a key. -/
  entry : (key : String) → String
  /-- The test whether there is an entry under a key. -/
  guard : (key : String) → Expression
  /-- The conversions by type. An entry of another type is left as it is. -/
  conversions : List (String × Conversion)

namespace Shape

/-- The conversion to a type. -/
def conversion (shape : Shape) (type : String) : Conversion :=
  (shape.conversions.lookup type).getD .none

/-- An entry of a type that the table does not list is left as it is. -/
theorem conversion_of_unlisted {shape : Shape} {type : String}
    (h : type ∉ shape.conversions.map Prod.fst) : shape.conversion type = .none := by
  have hlookup : shape.conversions.lookup type = none := by
    rw [List.lookup_eq_none_iff]
    intro entry hmem
    rw [bne_iff_ne]
    rintro rfl
    exact h (List.mem_map_of_mem hmem)
  rw [conversion, hlookup]
  rfl

/-- The entry under a key, converted to a type. -/
def convert (shape : Shape) (type key : String) : Expression :=
  (shape.conversion type).applied (shape.entry key)

/-- The entry under a key for a field, or null if there is none. -/
def guarded (shape : Shape) (field : Field) (key : String) : Expression :=
  .conditional (shape.guard key) (shape.convert field.type key) .null

/-- An assignment of the argument of a field to the member of the field. -/
def Assigns (shape : Shape) (field : Field) (action : Action) : Prop :=
  ∃ path : AccessPath, action = .assign (.access path) (.variable field.name) ∧
    path.segments.map Accessor.name = [shape.self, field.name]

/-- A parameter that reads a field. In the reader of all fields it is read under
    its own name. In the reader of a group it is null exactly if no tag of the
    field names the group, and is else read under the key of the last such
    tag. -/
def Reads (shape : Shape) : Option String → Field → Expression → Prop
  | none, field, parameter => parameter = shape.guarded field field.name
  | some group, field, parameter =>
    (parameter = .null ↔ ∀ tag ∈ field.groups, tag.name ≠ group) ∧
      ∀ tag, (field.groups.filter fun tag => tag.name = group).getLast? = some tag →
        parameter = shape.guarded field tag.member

end Shape

/-- A constructor with one argument and one assignment for every field. -/
structure IsConstructor (shape : Shape) (fields : List Field) (method : Method) : Prop where
  name_eq : method.name = shape.constructorName
  arguments_eq : method.arguments = fields.map Field.name
  assigns : List.Forall₂ shape.Assigns fields method.body

/-- A reader: a single return of a constructor call with one parameter for every
    field. -/
structure IsReader (shape : Shape) (className : String) (fields : List Field)
    (group : Option String) (method : Method) : Prop where
  name_eq : method.name = methodName group shape.readerName "from"
  static : method.isStatic = true
  returns : ∃ parameters, method.body = [.returns (.construct className parameters)] ∧
    List.Forall₂ (shape.Reads group) fields parameters

/-- The methods of a class in step with its fields: a constructor, a reader of
    all fields and one of every group, and no other static methods. -/
def Aligned (shape : Shape) (className : String) (fields : List Field)
    (methods : List Method) : Prop :=
  ∃ constructor readers writers, methods = constructor :: (readers ++ writers) ∧
    IsConstructor shape fields constructor ∧
    List.Forall₂ (IsReader shape className fields) (none :: (groupNames fields).map some)
      readers ∧
    ∀ writer ∈ writers, writer.isStatic = false

section Views

variable {shape : Shape} {className : String} {fields : List Field}

/-- The parameter that is made of a slot. -/
def Shape.readSlot (shape : Shape) : Option FieldEntry → Expression
  | none => .null
  | some entry => shape.guarded entry.field entry.key

/-- The constructor, given the members that hold the fields. -/
def Shape.constructor (shape : Shape) (own : Field → AccessPath) (fields : List Field) : Method :=
  ⟨shape.constructorName, false, fields.map Field.name,
    fields.map fun field => .assign (.access (own field)) (.variable field.name)⟩

/-- The reader of a view. -/
def Shape.reader (shape : Shape) (className : String) (view : DeserializeView) : Method :=
  ⟨methodName view.group shape.readerName "from", true, ["json"],
    [.returns (.construct className (view.slots.map shape.readSlot))]⟩

/-- The writer of a view, given the name of the writer of all fields and what is
    written to an entry. -/
def writerMethod (allName : String) (write : FieldEntry → String × Expression)
    (view : SerializeView) : Method :=
  ⟨methodName view.group allName "to", false, [],
    [.returns (.dictionary (view.entries.map write))]⟩

theorem isConstructor_constructor {own : Field → AccessPath}
    (hown : ∀ field, (own field).segments.map Accessor.name = [shape.self, field.name])
    (fields : List Field) : IsConstructor shape fields (shape.constructor own fields) := by
  refine ⟨rfl, rfl, ?_⟩
  rw [Shape.constructor, List.forall₂_map_right_iff, List.forall₂_same]
  exact fun field _ => ⟨own field, rfl, hown field⟩

/-- What is read from the slot of a field. -/
theorem reads_slotIn (shape : Shape) (group : Option String) (field : Field) :
    shape.Reads group field (shape.readSlot (slotIn group field)) := by
  cases group with
  | none => rfl
  | some name =>
      rw [slotIn, keyIn, lastTag]
      cases htag : (field.groups.filter fun tag => tag.name = name).getLast? with
      | none =>
          -- No tag of the group: the slot is empty and there is no last tag.
          rw [List.getLast?_eq_none_iff, List.filter_eq_nil_iff] at htag
          have hnone : ∀ tag ∈ field.groups, tag.name ≠ name :=
            fun tag hmem heq => htag tag hmem (decide_eq_true heq)
          refine ⟨⟨fun _ => hnone, fun _ => rfl⟩, fun tag hlast => ?_⟩
          have hmem := List.mem_filter.mp (List.mem_of_getLast? hlast)
          exact absurd (of_decide_eq_true hmem.2) (hnone tag hmem.1)
      | some tag =>
          -- The last tag of the group is a tag of the group.
          have hmem := List.mem_filter.mp (List.mem_of_getLast? htag)
          refine ⟨⟨fun hnull => ?_, fun hnone => ?_⟩, fun last hlast => ?_⟩
          · -- A guarded entry is a choice, not a literal.
            cases hnull
          · exact absurd (of_decide_eq_true hmem.2) (hnone tag hmem.1)
          · rw [htag, Option.some.injEq] at hlast
            rw [← hlast]
            rfl

theorem isReader_reader (shape : Shape) (className : String) (fields : List Field)
    (group : Option String) :
    IsReader shape className fields group
      (shape.reader className ⟨group, fields.map (slotIn group)⟩) := by
  refine ⟨rfl, rfl, _, rfl, ?_⟩
  rw [List.map_map, List.forall₂_map_right_iff, List.forall₂_same]
  exact fun field _ => reads_slotIn shape group field

/-- Blocks with one method each have the methods of the things they are made
    of. -/
theorem flatMap_blocks {α β : Type} {collect : List α → List Method} {block : β → List α}
    {method : β → Method} (hblock : ∀ item, collect (block item) = [method item])
    (items : List β) : (items.map block).flatMap collect = items.map method := by
  rw [List.flatMap_map, List.map_eq_flatMap]
  congr 1
  funext item
  exact hblock item

/-- The methods of blocks of members, of a constructor, of readers and of writers,
    made from the views of the fields. -/
theorem methods_of_blocks {α : Type} {collect : List α → List Method}
    {memberBlock : Field → List α} {constructorBlock : List α}
    {readerBlock : DeserializeView → List α} {writerBlock : SerializeView → List α}
    {constructor : Method} {reader : DeserializeView → Method} {writer : SerializeView → Method}
    (hmember : ∀ field, collect (memberBlock field) = [])
    (hconstructor : collect constructorBlock = [constructor])
    (hreader : ∀ view, collect (readerBlock view) = [reader view])
    (hwriter : ∀ view, collect (writerBlock view) = [writer view]) :
    (fields.map memberBlock ++ [constructorBlock] ++ (deserializeViews fields).map readerBlock
        ++ (serializeViews fields).map writerBlock).flatMap collect
      = constructor :: ((deserializeViews fields).map reader
        ++ (serializeViews fields).map writer) := by
  -- Members are no methods.
  have hmembers : (fields.map memberBlock).flatMap collect = [] := by
    rw [List.flatMap_eq_nil_iff]
    intro block hblock
    obtain ⟨field, _, rfl⟩ := List.mem_map.mp hblock
    exact hmember field
  rw [List.flatMap_append, List.flatMap_append, List.flatMap_append, hmembers,
    flatMap_blocks hreader, flatMap_blocks hwriter, List.flatMap_singleton, hconstructor,
    List.nil_append, List.append_assoc, List.singleton_append]

/-- Methods made from the views of the fields are in step with the fields. -/
theorem aligned_of_views {own : Field → AccessPath} {writer : SerializeView → Method}
    (hown : ∀ field, (own field).segments.map Accessor.name = [shape.self, field.name])
    (hstatic : ∀ view, (writer view).isStatic = false) :
    Aligned shape className fields
      (shape.constructor own fields :: ((deserializeViews fields).map (shape.reader className)
        ++ (serializeViews fields).map writer)) := by
  refine ⟨_, _, _, rfl, isConstructor_constructor hown fields, ?_, ?_⟩
  · rw [deserializeViews_eq, List.map_map, List.forall₂_map_right_iff, List.forall₂_same]
    exact fun group _ => isReader_reader shape className fields group
  · intro method hmethod
    obtain ⟨view, _, rfl⟩ := List.mem_map.mp hmethod
    exact hstatic view

end Views

end Generate

namespace Php

open Code Spec Generate

/-- The common view of a statement. -/
def action : Statement → Action
  | .assign target value => .assign target value
  | .returns value => .returns value
  | _ => .other

/-- The common view of a method. -/
def method? : Statement → Option Method
  | .method head body =>
    some ⟨head.name, head.modifiers.contains .static, head.arguments.map Argument.name,
      body.map action⟩
  | _ => none

/-- The name and the methods of a class. -/
def class? : Statement → Option (String × List Method)
  | .classDecl name members => some (name, members.filterMap method?)
  | _ => none

/-- The names of the grammar, and how it reads an entry of an array. -/
def shape : Shape where
  constructorName := "__construct"
  readerName := "fromArray"
  self := "$this"
  entry := fun key => "$json[\"" ++ key ++ "\"]"
  guard := fun key => .call "isset" .boolean [.raw ("$json[\"" ++ key ++ "\"]") .any]
  conversions :=
    [ ("string", .call "strval" ⟨"string"⟩),
      ("integer", .call "intval" ⟨"number"⟩),
      ("float", .call "floatval" ⟨"number"⟩),
      ("double", .call "doubleval" ⟨"number"⟩),
      ("boolean", .call "boolval" ⟨"boolean"⟩),
      ("datetime", .around
        ["\\date_create_immutable(date(\"Y-m-d H:i:s\", (is_numeric(", ") ? ", " : strtotime(",
          "))))"]
        ⟨"\\DateTimeImmutable"⟩) ]

/-- A value of any type is made of an entry as the table says. -/
theorem readValue_eq (type key : String) :
    readValue type (jsonEntry key) = shape.convert type key := by
  rw [Shape.convert, show jsonEntry key = shape.entry key from rfl]
  unfold readValue
  -- The known types one by one, and every other one, which the table does not list.
  split
  · rfl
  · rfl
  · rfl
  · rfl
  · rfl
  · rfl
  · rename_i hstring hinteger hfloat hdouble hboolean hdatetime
    have hunlisted : type ∉ shape.conversions.map Prod.fst := by
      simpa [shape] using ⟨hstring, hinteger, hfloat, hdouble, hboolean, hdatetime⟩
    rw [Shape.conversion_of_unlisted hunlisted]
    rfl

theorem readSlot_eq : readSlot = shape.readSlot := by
  funext slot
  cases slot with
  | none => rfl
  | some entry =>
      rw [readSlot, readValue_eq]
      rfl

theorem filterMap_documented (comment : DocComment) (statement : Statement) :
    (documented comment statement).filterMap method? = [statement].filterMap method? := by
  unfold documented
  split <;> rfl

/-- The lines between blocks hold no methods. -/
theorem filterMap_separateBlocks (blocks : List (List Statement)) :
    (separateBlocks blocks).filterMap method?
      = blocks.flatMap fun block => block.filterMap method? := by
  have hblank : ∀ blocks : List (List Statement),
      (blocks.flatMap fun block => .blankLine :: block).filterMap method?
        = blocks.flatMap fun block => block.filterMap method? := by
    intro blocks
    rw [List.filterMap_flatMap]
    rfl
  cases blocks with
  | nil => rfl
  | cons block blocks =>
      rw [separateBlocks, List.filterMap_append, hblank, List.flatMap_cons]

theorem filterMap_constructorBlock (className : String) (fields : List Field) :
    (constructorBlock className fields).filterMap method?
      = [shape.constructor (ownField className) fields] := by
  rw [constructorBlock, filterMap_documented]
  simp only [List.filterMap_cons, List.filterMap_nil, method?, List.map_map]
  rfl

/-- The methods of a generated class. -/
theorem methods_classBlocks (className : String) (fields : List Field) :
    (separateBlocks (classBlocks className fields)).filterMap method?
      = shape.constructor (ownField className) fields
        :: ((deserializeViews fields).map (shape.reader className)
          ++ (serializeViews fields).map (writerMethod "toArray" (writeEntry className))) := by
  rw [filterMap_separateBlocks, classBlocks]
  exact methods_of_blocks (fun _ => filterMap_documented _ _)
    (filterMap_constructorBlock className fields)
    (fun view => by
      rw [readerBlock, filterMap_documented, readSlot_eq]
      rfl)
    (fun _ => filterMap_documented _ _)

/-- The methods of a generated class are in step with the fields. -/
theorem aligned_classBlocks (className : String) (fields : List Field) :
    Aligned shape className fields
      ((separateBlocks (classBlocks className fields)).filterMap method?) := by
  rw [methods_classBlocks]
  exact aligned_of_views (fun _ => rfl) (fun _ => rfl)

end Php

namespace TypeScript

open Code Spec Generate

/-- The common view of a statement. -/
def action : Statement → Action
  | .assign target value => .assign target value
  | .returns value => .returns value
  | _ => .other

/-- The common view of a method. -/
def method? : Statement → Option Method
  | .method head body =>
    some ⟨head.name, head.modifiers.contains .static, head.arguments.map Argument.name,
      body.map action⟩
  | _ => none

/-- The name and the methods of a class. -/
def class? : Statement → Option (String × List Method)
  | .classDecl _ name members => some (name, members.filterMap method?)
  | _ => none

/-- The names of the grammar, and how it reads an entry of plain data. -/
def shape : Shape where
  constructorName := "constructor"
  readerName := "fromObject"
  self := "this"
  entry := fun key => "json[\"" ++ key ++ "\"]"
  guard := fun key => .call "json.hasOwnProperty" .boolean [.raw ("'" ++ key ++ "'") .string]
  conversions :=
    [ ("string", .around ["(", ").toString()"] ⟨"string"⟩),
      ("integer", .call "parseInt" ⟨"number"⟩),
      ("float", .call "parseFloat" ⟨"number"⟩),
      ("double", .call "parseFloat" ⟨"number"⟩),
      ("boolean", .around ["!!(", ")"] ⟨"boolean"⟩),
      ("datetime", .around ["new Date(parseInt(", ") * 1000)"] ⟨"Date"⟩) ]

/-- A value of any type is made of an entry as the table says. -/
theorem readValue_eq (type key : String) :
    readValue type (jsonEntry key) = shape.convert type key := by
  rw [Shape.convert, show jsonEntry key = shape.entry key from rfl]
  unfold readValue
  -- The known types one by one, and every other one, which the table does not list.
  split
  · rfl
  · rfl
  · rfl
  · rfl
  · rfl
  · rfl
  · rename_i hstring hinteger hfloat hdouble hboolean hdatetime
    have hunlisted : type ∉ shape.conversions.map Prod.fst := by
      simpa [shape] using ⟨hstring, hinteger, hfloat, hdouble, hboolean, hdatetime⟩
    rw [Shape.conversion_of_unlisted hunlisted]
    rfl

theorem readSlot_eq : readSlot = shape.readSlot := by
  funext slot
  cases slot with
  | none => rfl
  | some entry =>
      rw [readSlot, readValue_eq]
      rfl

theorem filterMap_documented (comment : DocComment) (statement : Statement) :
    (documented comment statement).filterMap method? = [statement].filterMap method? := by
  unfold documented
  split <;> rfl

/-- The lines between blocks hold no methods. -/
theorem filterMap_foldl_addBlock (blocks : List (List Statement)) (statements : List Statement) :
    (blocks.foldl addBlock statements).filterMap method?
      = statements.filterMap method? ++ blocks.flatMap fun block => block.filterMap method? := by
  induction blocks generalizing statements with
  | nil => rw [List.foldl_nil, List.flatMap_nil, List.append_nil]
  | cons block blocks ih =>
      -- Whether or not a line is put in between, the methods are those of both.
      have hblock : (addBlock statements block).filterMap method?
          = statements.filterMap method? ++ block.filterMap method? := by
        cases statements with
        | nil => rfl
        | cons first rest => exact List.filterMap_append
      rw [List.foldl_cons, ih, hblock, List.flatMap_cons, List.append_assoc]

theorem filterMap_constructorBlock (className : String) (fields : List Field) :
    (constructorBlock className fields).filterMap method?
      = [shape.constructor (ownField className) fields] := by
  rw [constructorBlock, filterMap_documented]
  simp only [List.filterMap_cons, List.filterMap_nil, method?, List.map_map]
  rfl

/-- The methods of a generated class. -/
theorem methods_classBlocks (className : String) (fields : List Field) :
    ((classBlocks className fields).foldl addBlock []).filterMap method?
      = shape.constructor (ownField className) fields
        :: ((deserializeViews fields).map (shape.reader className)
          ++ (serializeViews fields).map (writerMethod "toObject" (writeEntry className))) := by
  rw [filterMap_foldl_addBlock, List.filterMap_nil, List.nil_append, classBlocks]
  exact methods_of_blocks (fun _ => filterMap_documented _ _)
    (filterMap_constructorBlock className fields)
    (fun view => by
      rw [readerBlock, readSlot_eq]
      rfl)
    (fun _ => rfl)

/-- The methods of a generated class are in step with the fields. -/
theorem aligned_classBlocks (className : String) (fields : List Field) :
    Aligned shape className fields
      (((classBlocks className fields).foldl addBlock []).filterMap method?) := by
  rw [methods_classBlocks]
  exact aligned_of_views (fun _ => rfl) (fun _ => rfl)

end TypeScript

namespace Generate

open Code Spec

/-- The class that is generated from a spec has its constructor and all its
    readers in step with the fields of the spec, in either grammar. -/
theorem generated_methods_aligned (spec : Spec) :
    (∀ php, spec.php = .ok php →
      outline .php spec = .ok (Php.fileOutline (Php.fileStatements php spec.fields)) ∧
        ∃ methods, (Php.fileStatements php spec.fields).filterMap Php.class?
            = [(php.className, methods)] ∧
          Aligned Php.shape php.className spec.fields methods) ∧
      ∀ ts, spec.ts = .ok ts →
        outline .ts spec
            = .ok (TypeScript.fileOutline (TypeScript.fileStatements ts spec.fields)) ∧
          ∃ methods, (TypeScript.fileStatements ts spec.fields).filterMap TypeScript.class?
              = [(ts.className, methods)] ∧
            Aligned TypeScript.shape ts.className spec.fields methods := by
  constructor
  · intro php hphp
    refine ⟨?_, _, rfl, Php.aligned_classBlocks php.className spec.fields⟩
    rw [outline, hphp]
    rfl
  · intro ts hts
    refine ⟨?_, _, rfl, TypeScript.aligned_classBlocks ts.className spec.fields⟩
    rw [outline, hts]
    rfl

/-- A field with two tags of one group and one of another between them, a field
    without tags, and a field of the second group alone. -/
theorem generated_methods_aligned_interleaved :
    let fields : List Field :=
      [ ⟨"id", "integer", none, [⟨"row", "i"⟩, ⟨"api", "id"⟩, ⟨"row", "key"⟩]⟩,
        .plain "note" "string",
        ⟨"made", "datetime", some "When.", [⟨"api", "made_at"⟩]⟩ ]
    let spec : Spec := ⟨"out", ⟨some ⟨"App", "Item"⟩, some ⟨"Item"⟩⟩, fields⟩
    spec.php = .ok ⟨"App", "Item"⟩ ∧ spec.ts = .ok ⟨"Item"⟩ ∧
      (∃ methods, (Php.fileStatements ⟨"App", "Item"⟩ fields).filterMap Php.class?
          = [("Item", methods)] ∧ Aligned Php.shape "Item" fields methods ∧
        (methods[2]?).map Method.body = some [.returns (.construct "Item"
          [ .conditional (.call "isset" .boolean [.raw "$json[\"key\"]" .any])
              (.call "intval" .number [.raw "$json[\"key\"]" .any]) .null,
            .null, .null ])]) ∧
      ∃ methods, (TypeScript.fileStatements ⟨"Item"⟩ fields).filterMap TypeScript.class?
          = [("Item", methods)] ∧ Aligned TypeScript.shape "Item" fields methods ∧
        (methods[3]?).map Method.body = some [.returns (.construct "Item"
          [ .conditional (.call "json.hasOwnProperty" .boolean [.raw "'id'" .string])
              (.call "parseInt" .number [.raw "json[\"id\"]" .any]) .null,
            .null,
            .conditional (.call "json.hasOwnProperty" .boolean [.raw "'made_at'" .string])
              (.raw "new Date(parseInt(json[\"made_at\"]) * 1000)" ⟨"Date"⟩) .null ])] := by
  intro fields spec
  refine ⟨rfl, rfl, ?_, ?_⟩
  · obtain ⟨methods, hclass, haligned⟩ :=
      ((generated_methods_aligned spec).1 ⟨"App", "Item"⟩ rfl).2
    refine ⟨methods, hclass, haligned, ?_⟩
    cases hclass
    rfl
  · obtain ⟨methods, hclass, haligned⟩ := ((generated_methods_aligned spec).2 ⟨"Item"⟩ rfl).2
    refine ⟨methods, hclass, haligned, ?_⟩
    cases hclass
    rfl

end Generate

end ClassForge
