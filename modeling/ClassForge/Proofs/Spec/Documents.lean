import ClassForge.Proofs.Json.Written
import ClassForge.Proofs.Spec.Acceptance

/-!
# Spec Documents

A spec that is written and read again. What is written leaves out a missing
comment, missing groups and missing sections, and every key that it writes is one
that reading asks for, so it describes the spec it was written from. It has five
levels and no numbers, so nothing keeps its text from being read back as the same
value.

Reading drops empty comments and nothing else. What has been read has none left,
so writing and reading it again changes nothing.

## Theorems

* `describes_toValue`: A spec is described by what is written of it.
* `readable_toValue`: What is written of a spec can be read back.
* `normalized_of_ofText`: What has been read has no empty comments.
* `documents_round_trip`: Reading undoes writing, empty comments apart.
-/

namespace ClassForge

namespace Spec

open Json

section Written

theorem GroupTag.describes_toValue (tag : GroupTag) : Describes tag.toValue tag := ⟨rfl, rfl⟩

theorem PhpSection.describes_toValue (php : PhpSection) : Describes php.toValue php := ⟨rfl, rfl⟩

theorem TsSection.describes_toValue (ts : TsSection) : Describes ts.toValue ts := ⟨rfl⟩

/-- What is written of a list describes it item by item. -/
theorem forall₂_map {α : Type} {described : Value → α → Prop} {toValue : α → Value}
    (h : ∀ item, described (toValue item) item) (items : List α) :
    List.Forall₂ described (items.map toValue) items := by
  induction items with
  | nil => exact .nil
  | cons item items ih => exact .cons (h item) ih

theorem Field.describes_toValue (field : Field) : Describes field.toValue field := by
  rcases field with ⟨name, type, comment, groups⟩
  have hgroups : List.Forall₂ GroupTag.Describes (groups.map GroupTag.toValue) groups :=
    forall₂_map GroupTag.describes_toValue groups
  -- Which members are written depends on the comment and the groups.
  cases comment with
  | none =>
      cases groups with
      | nil => exact ⟨rfl, rfl, .absent, .absent⟩
      | cons tag tags => exact ⟨rfl, rfl, .absent, .given hgroups⟩
  | some text =>
      cases groups with
      | nil => exact ⟨rfl, rfl, .text text, .absent⟩
      | cons tag tags => exact ⟨rfl, rfl, .text text, .given hgroups⟩

theorem Sections.describes_toValue (sections : Sections) :
    Describes sections.toValue sections := by
  rcases sections with ⟨_ | php, _ | ts⟩
  · exact ⟨rfl, .none, .none⟩
  · exact ⟨rfl, .none, .some ts.describes_toValue⟩
  · exact ⟨rfl, .some php.describes_toValue, .none⟩
  · exact ⟨rfl, .some php.describes_toValue, .some ts.describes_toValue⟩

/-- A spec is described by what is written of it. -/
theorem describes_toValue (spec : Spec) : Describes spec.toValue spec :=
  ⟨rfl, ⟨_, rfl, spec.sections.describes_toValue⟩, _, rfl,
    forall₂_map Field.describes_toValue spec.fields⟩

end Written

section Readable

theorem GroupTag.readable_toValue (tag : GroupTag) (depth : Nat) :
    tag.toValue.Readable (depth + 1) := by
  refine .object ?_
  rw [List.forall_mem_cons, List.forall_mem_singleton]
  exact ⟨.string _ _, .string _ _⟩

theorem Field.readable_toValue (field : Field) (depth : Nat) :
    field.toValue.Readable (depth + 3) := by
  have hgroups : (Data.array (field.groups.map GroupTag.toValue)).Readable (depth + 2) :=
    .array (List.forall_mem_map.mpr fun tag _ => tag.readable_toValue depth)
  refine .object ?_
  rw [List.forall_mem_append, List.forall_mem_append, List.forall_mem_cons,
    List.forall_mem_singleton]
  refine ⟨⟨⟨.string _ _, .string _ _⟩, ?_⟩, ?_⟩
  · exact List.forall_mem_map.mpr fun text _ => .string text _
  · split
    · exact List.forall_mem_nil _
    · exact List.forall_mem_singleton.mpr hgroups

theorem Sections.readable_toValue (sections : Sections) (depth : Nat) :
    sections.toValue.Readable (depth + 2) := by
  have hphp (php : PhpSection) : php.toValue.Readable (depth + 1) := by
    refine .object ?_
    rw [List.forall_mem_cons, List.forall_mem_singleton]
    exact ⟨.string _ _, .string _ _⟩
  have hts (ts : TsSection) : ts.toValue.Readable (depth + 1) :=
    .object (List.forall_mem_singleton.mpr (.string _ _))
  refine .object ?_
  rw [List.forall_mem_append]
  exact ⟨List.forall_mem_map.mpr fun php _ => hphp php,
    List.forall_mem_map.mpr fun ts _ => hts ts⟩

/-- A written spec has no numbers and five levels, so nothing in it is out of
    range. -/
theorem readable_toValue (spec : Spec) (depth : Nat) : spec.toValue.Readable (depth + 5) := by
  refine .object ?_
  rw [List.forall_mem_cons, List.forall_mem_cons, List.forall_mem_singleton]
  exact ⟨.string _ _, spec.sections.readable_toValue (depth + 2),
    .array (List.forall_mem_map.mpr fun field _ => field.readable_toValue depth)⟩

end Readable

theorem ofText_write (spec : Spec) : ofText spec.write = .ok spec.normalized := by
  rw [write, ofText_eq_ofValue (Json.value?_write (spec.readable_toValue 122)),
    ofValue_of_describes spec.describes_toValue]

theorem Field.normalized_normalized (field : Field) :
    field.normalized.normalized = field.normalized := by
  unfold normalized
  by_cases hempty : field.comment = some ""
  · rw [if_pos hempty]
    rfl
  · rw [if_neg hempty, if_neg hempty]

theorem normalized_normalized (spec : Spec) : spec.normalized.normalized = spec.normalized := by
  unfold normalized
  rw [List.map_map]
  congr 1
  exact List.map_congr_left fun field _ => field.normalized_normalized

-- Whatever is read has been normalized, so there is nothing left to remove.
theorem normalized_of_ofText {text : String} {spec : Spec} (hread : ofText text = .ok spec) :
    spec.normalized = spec := by
  unfold ofText at hread
  split at hread
  · cases hread
  · rename_i value _
    rcases ofValue_cases value with ⟨path, -, h⟩ | ⟨-, -, h⟩ | ⟨written, -, -, h⟩
    · rw [h] at hread
      cases hread
    · rw [h] at hread
      cases hread
    · rw [h] at hread
      cases hread
      exact written.normalized_normalized

/-- A written spec is read as that spec, with empty comments removed and nothing
    else changed. So what is read from a text stays the same when it is written
    and read again, and a text that is refused is refused. -/
theorem documents_round_trip :
    (∀ spec : Spec, ofText spec.write = .ok { spec with
      fields := spec.fields.map fun field =>
        { field with comment := if field.comment = some "" then none else field.comment } }) ∧
      ∀ text : String, (do
        let spec ← ofText text
        ofText spec.write) = ofText text := by
  refine ⟨ofText_write, fun text => ?_⟩
  cases hread : ofText text with
  | error error => rfl
  | ok spec =>
      simp only [bind, Except.bind]
      rw [ofText_write, normalized_of_ofText hread]

end Spec

end ClassForge
