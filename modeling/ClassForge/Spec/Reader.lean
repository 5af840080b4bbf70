import ClassForge.Spec.Basic

/-!
# Reading Specs

A spec is read in two passes. The first looks for required keys that are
missing, in a fixed order, and names the first one by its path. Only when none
is missing does the second pass give everything its shape. So a missing key is
always reported as such, whatever else is wrong.

Looking for a key in something that is not an object finds nothing, and a key
whose value is null counts as present. Keys that nobody asks for are ignored.

The sections of a spec may also be given as an array, in the order PHP,
TypeScript, and so may the section of a language inside such an array.

## Main definitions

* `firstMissing`: The path of the first required key that is missing.
* `ofShape`: The spec that a value describes once no key is missing.
* `ofValue`, `ofText`: The spec of a value and of a text.

## Theorems

* `ofText_eq_ofValue`: The spec of a text is that of its value.
-/

namespace ClassForge

namespace Spec

open Json

/-- The path of a key below a path. -/
def keyPath (path key : String) : String := if path = "" then key else path ++ "." ++ key

/-- The path of an item of an array. -/
def itemPath (path : String) (index : Nat) : String := path ++ "[" ++ index.repr ++ "]"

/-- The path of the first of some keys that a value does not have. -/
def missingKey? (value : Value) (path : String) (keys : List String) : Option String :=
  (keys.find? fun key => (value.get? key).isNone).map (keyPath path)

/-- The first missing key of some group tags, numbered from `index`. -/
def missingInGroups (path : String) : (index : Nat) → List Value → Option String
  | _, [] => none
  | index, group :: groups =>
    (missingKey? group (itemPath (keyPath path "groups") index) ["name", "member"]).or
      (missingInGroups path (index + 1) groups)

/-- The items under a key, if there is an array. -/
def itemsAt (value : Value) (key : String) : List Value :=
  ((value.get? key).bind Data.items?).getD []

/-- The first missing key of some fields, numbered from `index`. -/
def missingInFields : (index : Nat) → List Value → Option String
  | _, [] => none
  | index, field :: fields =>
    let path := itemPath "fields" index
    ((missingKey? field path ["name", "type"]).or
      (missingInGroups path 0 (itemsAt field "groups"))).or
      (missingInFields (index + 1) fields)

/-- The first missing key of the section of a language, if there is a section. -/
def missingInSection (value : Value) (language : Language) (keys : List String) :
    Option String :=
  ((value.get? "lang").bind (Data.get? · language.name)).bind fun found =>
    missingKey? found (keyPath "lang" language.name) keys

/-- The path of the first required key that a value does not have. -/
def firstMissing (value : Value) : Option String :=
  (((missingKey? value "" ["outDir", "lang", "fields"]).or
    (missingInSection value .php ["namespace", "clazz"])).or
    (missingInSection value .ts ["clazz"])).or
    (missingInFields 0 (itemsAt value "fields"))

/-- The text under a key. -/
def textAt? (value : Value) (key : String) : Option String :=
  (value.get? key).bind Data.string?

/-- What a value describes, unless it is null. -/
def unlessNull {α : Type} (read : Value → Option α) (value : Value) : Option (Option α) :=
  if value.isNull then some none else (read value).map some

/-- What is described under a key, if anything is. -/
def optionalAt? {α : Type} (read : Value → Option α) (value : Value) (key : String) :
    Option (Option α) :=
  match value.get? key with
  | none => some none
  | some found => unlessNull read found

namespace GroupTag

/-- The tag that a value describes. -/
def ofShape (value : Value) : Option GroupTag := do
  let name ← textAt? value "name"
  let member ← textAt? value "member"
  return ⟨name, member⟩

end GroupTag

namespace Field

/-- The field that a value describes. Groups may be missing but not null. -/
def ofShape (value : Value) : Option Field := do
  let name ← textAt? value "name"
  let type ← textAt? value "type"
  let comment ← optionalAt? Data.string? value "comment"
  let groups ←
    match value.get? "groups" with
    | none => some []
    | some found => do
      let items ← found.items?
      items.mapM GroupTag.ofShape
  return ⟨name, type, comment, groups⟩

end Field

namespace PhpSection

/-- The section for PHP that a value describes. -/
def ofShape : Value → Option PhpSection
  | .array [.string namespaceName, .string className] => some ⟨namespaceName, className⟩
  | .array _ => none
  | value => do
    let namespaceName ← textAt? value "namespace"
    let className ← textAt? value "clazz"
    return ⟨namespaceName, className⟩

end PhpSection

namespace TsSection

/-- The section for TypeScript that a value describes. -/
def ofShape : Value → Option TsSection
  | .array [.string className] => some ⟨className⟩
  | .array _ => none
  | value => do
    let className ← textAt? value "clazz"
    return ⟨className⟩

end TsSection

namespace Sections

/-- The sections that a value describes. -/
def ofShape : Value → Option Sections
  | .array [] => some ⟨none, none⟩
  | .array [php] => do
    let php ← unlessNull PhpSection.ofShape php
    return ⟨php, none⟩
  | .array [php, ts] => do
    let php ← unlessNull PhpSection.ofShape php
    let ts ← unlessNull TsSection.ofShape ts
    return ⟨php, ts⟩
  | .array _ => none
  | value => do
    guard value.isObject
    let php ← optionalAt? PhpSection.ofShape value "php"
    let ts ← optionalAt? TsSection.ofShape value "ts"
    return ⟨php, ts⟩

end Sections

/-- The spec that a value describes once no key is missing. -/
def ofShape (value : Value) : Option Spec := do
  let outDir ← textAt? value "outDir"
  let sections ← (value.get? "lang").bind Sections.ofShape
  let items ← (value.get? "fields").bind Data.items?
  let fields ← items.mapM Field.ofShape
  return ⟨outDir, sections, fields⟩

/-- The spec with comments that say nothing removed. -/
def normalized (spec : Spec) : Spec :=
  { spec with fields := spec.fields.map Field.normalized }

/-- The spec that a value describes. -/
def ofValue (value : Value) : Except SpecError Spec :=
  match firstMissing value with
  | some path => .error (.missingKey path)
  | none =>
    match ofShape value with
    | none => .error (.invalid .misshapen)
    | some spec => .ok spec.normalized

/-- The spec that a text describes. -/
def ofText (text : String) : Except SpecError Spec :=
  match Json.value? text with
  | none => .error (.invalid .malformed)
  | some value => ofValue value

theorem ofText_eq_ofValue {text : String} {value : Value} (hvalue : Json.value? text = some value) :
    ofText text = ofValue value := by
  rw [ofText, hvalue]

/-- The compact text of a spec. -/
def write (spec : Spec) : String := spec.toValue.write

end Spec

end ClassForge
