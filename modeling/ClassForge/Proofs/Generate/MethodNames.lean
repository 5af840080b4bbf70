import ClassForge.Proofs.Generate.Alignment
import ClassForge.Proofs.Text.Capitals
import ClassForge.Spec.Reader
import Mathlib

/-!
# Names of Generated Methods

The methods of a generated class are its constructor, the readers and the
writers. A reader and a writer of a group are named after the group, with a
capital, and those of all fields after a fixed word, so that all readers share
one way of naming and all writers another. Nothing looks at the names that come
out: groups are kept apart by their own names, and two groups that only differ
in the case of their first letter get the same methods. So does a group that is
called like the fixed word.

That is the only way in which names can meet. Readers, writers and the
constructor start with different letters, so a class has distinct names exactly
if the endings behind `from` and `to` are distinct, and the fixed word is the
ending of the groups that are spelled like it, with a small letter or a capital.

## Main definitions

* `declaredNames`: The names of the methods of a class with given groups.
* `Php.methodNames`, `TypeScript.methodNames`: The names of the methods of the
  classes of a file.

## Theorems

* `nodup_declaredNames_iff`: When these names are distinct.
* `method_names_nodup_iff`: When the methods of a generated class have distinct
  names.
* `methods_declared_twice`: A spec whose classes declare methods twice.
-/

namespace ClassForge

namespace Generate

open Code Spec

/-- The names of the methods of a class with these groups, given what stands
    behind the names of the methods for all fields. -/
def declaredNames (constructorName allWord : String) (groups : List String) : List String :=
  let endings := allWord :: groups.map Text.upperFirst
  constructorName :: (endings.map ("from" ++ ·) ++ endings.map ("to" ++ ·))

section Names

variable {constructorName allWord : String}

theorem append_left_injective (start : String) : Function.Injective (start ++ ·) := by
  intro first second heq
  have hlists := congrArg String.toList heq
  simp only [String.toList_append, List.append_cancel_left_eq] at hlists
  exact String.toList_inj.mp hlists

theorem head?_append {start : String} {c : Char} (hstart : start.toList.head? = some c)
    (ending : String) : (start ++ ending).toList.head? = some c := by
  rw [String.toList_append, List.head?_append, hstart]
  rfl

/-- The names of a class are distinct exactly if their endings are. -/
theorem nodup_declaredNames_iff (hfrom : constructorName.toList.head? ≠ some 'f')
    (hto : constructorName.toList.head? ≠ some 't') (groups : List String) :
    (declaredNames constructorName allWord groups).Nodup ↔
      (groups.map Text.upperFirst).Nodup ∧ ∀ group ∈ groups, Text.upperFirst group ≠ allWord := by
  have hreader : ∀ ending, ("from" ++ ending).toList.head? = some 'f' :=
    head?_append (by decide)
  have hwriter : ∀ ending, ("to" ++ ending).toList.head? = some 't' :=
    head?_append (by decide)
  -- The first letter tells the constructor, the readers and the writers apart.
  have hconstructor : ∀ endings : List String,
      constructorName ∉ endings.map ("from" ++ ·) ++ endings.map ("to" ++ ·) := by
    intro endings hmem
    rcases List.mem_append.mp hmem with hmem | hmem
    · rcases List.mem_map.mp hmem with ⟨ending, _, heq⟩
      exact hfrom (heq ▸ hreader ending)
    · rcases List.mem_map.mp hmem with ⟨ending, _, heq⟩
      exact hto (heq ▸ hwriter ending)
  have hdisjoint : ∀ endings : List String,
      (endings.map ("from" ++ ·)).Disjoint (endings.map ("to" ++ ·)) := by
    intro endings name hleft hright
    rcases List.mem_map.mp hleft with ⟨left, _, rfl⟩
    rcases List.mem_map.mp hright with ⟨right, _, heq⟩
    have hheads := congrArg (fun name => name.toList.head?) heq
    simp only [hreader, hwriter] at hheads
    exact absurd hheads (by decide)
  rw [declaredNames, List.nodup_cons, List.nodup_append',
    List.nodup_map_iff (append_left_injective _), List.nodup_map_iff (append_left_injective _)]
  simp only [hconstructor, hdisjoint, not_false_eq_true, true_and, and_true, and_self,
    List.nodup_cons, List.mem_map, not_exists, not_and]
  exact and_comm

/-- The names of methods that are made from the views of fields. -/
theorem names_of_views {shape : Shape} {className : String} {own : Field → AccessPath}
    {write : FieldEntry → String × Expression} {writerName : String}
    (hreader : shape.readerName = "from" ++ allWord) (hwriter : writerName = "to" ++ allWord)
    (fields : List Field) :
    (shape.constructor own fields :: ((deserializeViews fields).map (shape.reader className)
        ++ (serializeViews fields).map (writerMethod writerName write))).map Method.name
      = declaredNames shape.constructorName allWord (groupNames fields) := by
  rw [deserializeViews_eq, serializeViews_eq, declaredNames]
  simp only [List.map_cons, List.map_append, List.map_map, hwriter, Shape.constructor,
    Shape.reader, writerMethod, methodName, hreader]
  rfl

end Names

end Generate

namespace Php

/-- The names of the methods of all classes of a file. -/
def methodNames (statements : List Statement) : List String :=
  (statements.filterMap class?).flatMap fun found => found.2.map Generate.Method.name

theorem methodNames_fileStatements (php : Spec.PhpSection) (fields : List Spec.Field) :
    methodNames (fileStatements php fields)
      = Generate.declaredNames "__construct" "Array" (Spec.groupNames fields) := by
  have hclass : (fileStatements php fields).filterMap class?
      = [(php.className,
        (separateBlocks (classBlocks php.className fields)).filterMap method?)] := rfl
  rw [methodNames, hclass, List.flatMap_singleton, methods_classBlocks]
  exact Generate.names_of_views (by decide) (by decide) fields

end Php

namespace TypeScript

/-- The names of the methods of all classes of a file. -/
def methodNames (statements : List Statement) : List String :=
  (statements.filterMap class?).flatMap fun found => found.2.map Generate.Method.name

theorem methodNames_fileStatements (ts : Spec.TsSection) (fields : List Spec.Field) :
    methodNames (fileStatements ts fields)
      = Generate.declaredNames "constructor" "Object" (Spec.groupNames fields) := by
  have hclass : (fileStatements ts fields).filterMap class?
      = [(ts.className,
        ((classBlocks ts.className fields).foldl addBlock []).filterMap method?)] := rfl
  rw [methodNames, hclass, List.flatMap_singleton, methods_classBlocks]
  exact Generate.names_of_views (by decide) (by decide) fields

end TypeScript

namespace Generate

open Spec

/-- The methods of a generated class have distinct names exactly if no two groups
    become the same word with a capital and no group is called like the methods
    for all fields, in either grammar. -/
theorem method_names_nodup_iff (spec : Spec) :
    (∀ php, spec.php = .ok php →
      outline .php spec = .ok (Php.fileOutline (Php.fileStatements php spec.fields)) ∧
        ((Php.methodNames (Php.fileStatements php spec.fields)).Nodup ↔
          ((groupNames spec.fields).map Text.upperFirst).Nodup ∧
            ∀ group ∈ groupNames spec.fields, group ≠ "array" ∧ group ≠ "Array")) ∧
      ∀ ts, spec.ts = .ok ts →
        outline .ts spec
            = .ok (TypeScript.fileOutline (TypeScript.fileStatements ts spec.fields)) ∧
          ((TypeScript.methodNames (TypeScript.fileStatements ts spec.fields)).Nodup ↔
            ((groupNames spec.fields).map Text.upperFirst).Nodup ∧
              ∀ group ∈ groupNames spec.fields, group ≠ "object" ∧ group ≠ "Object") := by
  constructor
  · intro php hphp
    have hword : ∀ group, Text.upperFirst group ≠ "Array" ↔ group ≠ "array" ∧ group ≠ "Array" :=
      Text.upperFirst_ne_iff Text.capital_array
    refine ⟨outline_php hphp, ?_⟩
    rw [Php.methodNames_fileStatements, nodup_declaredNames_iff (by decide) (by decide)]
    simp only [hword]
  · intro ts hts
    have hword : ∀ group, Text.upperFirst group ≠ "Object"
        ↔ group ≠ "object" ∧ group ≠ "Object" :=
      Text.upperFirst_ne_iff Text.capital_object
    refine ⟨outline_ts hts, ?_⟩
    rw [TypeScript.methodNames_fileStatements, nodup_declaredNames_iff (by decide) (by decide)]
    simp only [hword]

/-- Groups that nearly meet: a letter with two capitals and the two letters
    themselves, and a word that only starts like that of all fields. -/
theorem method_names_nodup_sharp_s :
    let tags : List GroupTag := [⟨"ß", "a"⟩, ⟨"ss", "b"⟩, ⟨"arrays", "c"⟩, ⟨"objects", "d"⟩]
    let fields : List Field := [⟨"id", "string", none, tags⟩]
    let spec : Spec := ⟨"out", ⟨some ⟨"App", "Item"⟩, some ⟨"Item"⟩⟩, fields⟩
    spec.php = .ok ⟨"App", "Item"⟩ ∧ spec.ts = .ok ⟨"Item"⟩ ∧
      (Php.methodNames (Php.fileStatements ⟨"App", "Item"⟩ spec.fields)).Nodup ∧
      (TypeScript.methodNames (TypeScript.fileStatements ⟨"Item"⟩ spec.fields)).Nodup := by
  intro tags fields spec
  exact ⟨rfl, rfl, ((method_names_nodup_iff spec).1 _ rfl).2.mpr (by decide +kernel),
    ((method_names_nodup_iff spec).2 _ rfl).2.mpr (by decide +kernel)⟩

section Reading

-- Reading a text takes one level of recursion for every character.
set_option maxRecDepth 4000

/-- A spec is accepted whose two groups differ in the case of their first letter
    only, and the classes that are generated from it declare methods twice. -/
theorem methods_declared_twice :
    let tags : List GroupTag := [⟨"row", "id"⟩, ⟨"Row", "id"⟩]
    let fields : List Field := [⟨"id", "string", none, tags⟩]
    let spec : Spec := ⟨"out", ⟨some ⟨"App", "Item"⟩, some ⟨"Item"⟩⟩, fields⟩
    ofText spec.write = .ok spec ∧ (spec.fields.map Field.name).Nodup ∧
      spec.php = .ok ⟨"App", "Item"⟩ ∧ spec.ts = .ok ⟨"Item"⟩ ∧
      ¬ (Php.methodNames (Php.fileStatements ⟨"App", "Item"⟩ spec.fields)).Nodup ∧
      ¬ (TypeScript.methodNames (TypeScript.fileStatements ⟨"Item"⟩ spec.fields)).Nodup := by
  intro tags fields spec
  have hvalue : Json.value? spec.write = some spec.toValue := by
    rw [Json.value?, Spec.write, Json.document?_write]
    cbv
  have htext : ofText spec.write = .ok spec := by
    rw [ofText_eq_ofValue hvalue]
    cbv
  refine ⟨htext, by decide, rfl, rfl, ?_, ?_⟩
  · rw [Php.methodNames_fileStatements]
    decide +kernel
  · rw [TypeScript.methodNames_fileStatements]
    decide +kernel

end Reading

end Generate

end ClassForge
