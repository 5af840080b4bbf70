import ClassForge.Json.Value

/-!
# Class Specs

A spec describes a value class: its fields, the directory its code goes to, and
a section for every language it is generated in. A field may be tagged with
groups; each tag names the key under which the field appears in that group.

## Main definitions

* `Language`: The languages that code is generated in.
* `GroupTag`, `Field`: A tag of a field, and a field.
* `PhpSection`, `TsSection`, `Sections`: What a language needs to know.
* `Spec`: A spec.
* `SpecError`: What can be wrong with a spec.
* `Spec.toValue`: A spec as a JSON value.
-/

namespace ClassForge

namespace Spec

/-- The languages that code is generated in. -/
inductive Language where
  | php
  | ts
  deriving DecidableEq

/-- The name of a language, also the key of its section. -/
def Language.name : Language → String
  | .php => "php"
  | .ts => "ts"

/-- A tag of a field: the group it belongs to, and its key there. -/
structure GroupTag where
  /-- The name of the group. -/
  name : String
  /-- The key of the field in that group. -/
  member : String
  deriving DecidableEq

/-- A field of a class. -/
structure Field where
  /-- The name of the field. -/
  name : String
  /-- The type of the field, in the words of specs. -/
  type : String
  /-- What the field is for, if anything is said about it. -/
  comment : Option String
  /-- The groups the field belongs to. -/
  groups : List GroupTag
  deriving DecidableEq

namespace Field

/-- A field without comment and groups. -/
def plain (name type : String) : Field := ⟨name, type, none, []⟩

/-- The field with a comment; an empty comment is none. -/
def withComment (comment : String) (field : Field) : Field :=
  { field with comment := if comment = "" then none else some comment }

/-- The field with one more tag. -/
def withGroup (tag : GroupTag) (field : Field) : Field :=
  { field with groups := field.groups ++ [tag] }

/-- The field without a comment that says nothing. -/
def normalized (field : Field) : Field :=
  { field with comment := if field.comment = some "" then none else field.comment }

end Field

/-- What PHP code needs to know. -/
structure PhpSection where
  /-- The namespace of the class. -/
  namespaceName : String
  /-- The name of the class. -/
  className : String
  deriving DecidableEq

/-- What TypeScript code needs to know. -/
structure TsSection where
  /-- The name of the class. -/
  className : String
  deriving DecidableEq

/-- The sections of a spec, one for each language that it supports. -/
structure Sections where
  /-- The section for PHP. -/
  php : Option PhpSection
  /-- The section for TypeScript. -/
  ts : Option TsSection
  deriving DecidableEq

end Spec

/-- A description of a value class. -/
structure Spec where
  /-- Where the code goes, relative to the spec itself. -/
  outDir : String
  /-- The languages it is generated in. -/
  sections : Spec.Sections
  /-- The fields in order. -/
  fields : List Spec.Field
  deriving DecidableEq

namespace Spec

/-- Why a text is no spec. -/
inductive Fault where
  /-- It is not even a JSON text. -/
  | malformed
  /-- Every required key is there, but something has the wrong shape. -/
  | misshapen
  deriving DecidableEq

/-- What can be wrong with a spec. -/
inductive SpecError where
  /-- A required key is missing. -/
  | missingKey (path : String)
  /-- It has no section for a language. -/
  | missingLanguage (language : String)
  /-- It is no spec. -/
  | invalid (fault : Fault)
  /-- It could not be read, for this reason. -/
  | unreadable (reason : String)
  deriving DecidableEq

/-- The wording of what is wrong with a spec. -/
def SpecError.message : SpecError → String
  | .missingKey path => "'" ++ path ++ "' is missing"
  | .missingLanguage language => "Spec has no 'lang." ++ language ++ "' section"
  | .invalid _ => "Invalid spec JSON"
  | .unreadable reason => "IO error: " ++ reason

/-- The wording, followed by that of the cause which it already repeats. -/
def SpecError.chain (error : SpecError) : List String :=
  error.message ::
    match error with
    | .unreadable reason => [reason]
    | _ => []

/-- The section for PHP. -/
def php (spec : Spec) : Except SpecError PhpSection :=
  match spec.sections.php with
  | some found => .ok found
  | none => .error (.missingLanguage Language.php.name)

/-- The section for TypeScript. -/
def ts (spec : Spec) : Except SpecError TsSection :=
  match spec.sections.ts with
  | some found => .ok found
  | none => .error (.missingLanguage Language.ts.name)

open Json

/-- A member whose value is a string. -/
def textMember (key text : String) : Member String := .member key (.string text)

/-- A tag as a JSON value. -/
def GroupTag.toValue (tag : GroupTag) : Value :=
  .object [textMember "name" tag.name, textMember "member" tag.member]

/-- A field as a JSON value. A missing comment and missing groups are left
    out. -/
def Field.toValue (field : Field) : Value :=
  .object
    ([textMember "name" field.name, textMember "type" field.type]
      ++ field.comment.toList.map (textMember "comment")
      ++ if field.groups = [] then []
        else [.member "groups" (.array (field.groups.map GroupTag.toValue))])

/-- The section for PHP as a JSON value. -/
def PhpSection.toValue (php : PhpSection) : Value :=
  .object [textMember "namespace" php.namespaceName, textMember "clazz" php.className]

/-- The section for TypeScript as a JSON value. -/
def TsSection.toValue (ts : TsSection) : Value := .object [textMember "clazz" ts.className]

/-- The sections as a JSON value. A missing section is left out. -/
def Sections.toValue (sections : Sections) : Value :=
  .object
    (sections.php.toList.map (fun php => .member "php" php.toValue)
      ++ sections.ts.toList.map (fun ts => .member "ts" ts.toValue))

/-- A spec as a JSON value. -/
def toValue (spec : Spec) : Value :=
  .object
    [ textMember "outDir" spec.outDir,
      .member "lang" spec.sections.toValue,
      .member "fields" (.array (spec.fields.map Field.toValue)) ]

end Spec

end ClassForge
