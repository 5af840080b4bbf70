import ClassForge.Proofs.Spec.Schemas
import Mathlib.Data.List.Forall2
import Mathlib.Data.Option.Basic

/-!
# Acceptance of Specs

Which values are read as specs, which specs they are read as, and how the others
are refused.

A spec is read by two passes that look at a value in different ways. The first
only asks for keys, and what is no object has none. The second wants values of
the right kind, would take arrays for some objects, and knows which keys may be
absent. What they come to together is said here without either of them: a value
is accepted exactly if it has the shape of a spec, and `Describes` says which
spec it is then. Once the first pass has found nothing, every object that the
second could also take as an array is an object, so only the sections as a whole
have to be assumed to be one.

The spec that is read has the texts of the value in the order of the value, with
one exception. An empty comment counts as none, and `empty_comment_not_kept` shows
that it makes a difference.

## Main definitions

* `Describes`: A value has exactly the contents of a spec.

## Theorems

* `exists_describes_iff`: What has the shape of a spec describes one.
* `ofShape_eq_some_iff`: The second pass reads the spec that a value describes.
* `ofValue_of_describes`: What is read from a value that describes a spec.
* `accepted_exactly_by_schema`: Which values are specs, and what is wrong with the
  others.
-/

namespace ClassForge

namespace Spec

open Json

/-- What stands under the key of a comment, if anything does, says this comment. -/
inductive Notes : Option Value → Option String → Prop where
  | absent : Notes none none
  | null : Notes (some .null) none
  | text (text : String) : Notes (some (.string text)) (some text)

/-- A value with exactly the texts of a tag. -/
structure GroupTag.Describes (value : Value) (tag : GroupTag) : Prop where
  name : value.get? "name" = some (.string tag.name)
  member : value.get? "member" = some (.string tag.member)

/-- What stands under the key of the groups, if anything does, describes these
    tags in order. -/
inductive Tagged : Option Value → List GroupTag → Prop where
  | absent : Tagged none []
  | given {values : List Value} {tags : List GroupTag}
      (h : List.Forall₂ GroupTag.Describes values tags) : Tagged (some (.array values)) tags

/-- A value with exactly the contents of a field. -/
structure Field.Describes (value : Value) (field : Field) : Prop where
  name : value.get? "name" = some (.string field.name)
  type : value.get? "type" = some (.string field.type)
  comment : Notes (value.get? "comment") field.comment
  groups : Tagged (value.get? "groups") field.groups

/-- A value with exactly the texts of a section for PHP. -/
structure PhpSection.Describes (value : Value) (php : PhpSection) : Prop where
  namespaceName : value.get? "namespace" = some (.string php.namespaceName)
  className : value.get? "clazz" = some (.string php.className)

/-- A value with exactly the texts of a section for TypeScript. -/
structure TsSection.Describes (value : Value) (ts : TsSection) : Prop where
  className : value.get? "clazz" = some (.string ts.className)

/-- An object with exactly these sections. -/
structure Sections.Describes (value : Value) (sections : Sections) : Prop where
  isObject : value.isObject = true
  php : Option.Rel PhpSection.Describes (value.get? "php") sections.php
  ts : Option.Rel TsSection.Describes (value.get? "ts") sections.ts

/-- A value with exactly the contents of a spec, its fields in order. -/
structure Describes (value : Value) (spec : Spec) : Prop where
  outDir : value.get? "outDir" = some (.string spec.outDir)
  sections : ∃ found, value.get? "lang" = some found ∧ Sections.Describes found spec.sections
  fields : ∃ values, value.get? "fields" = some (.array values) ∧
    List.Forall₂ Field.Describes values spec.fields

section Reading

variable {α β : Type}

theorem mapM_eq_some_iff {read : α → Option β} {values : List α} {results : List β} :
    values.mapM read = some results ↔
      List.Forall₂ (fun value result => read value = some result) values results := by
  induction values generalizing results with
  | nil => simp only [List.mapM_nil, Option.pure_def, Option.some.injEq, List.forall₂_nil_left_iff,
      eq_comm]
  | cons value values ih =>
      simp only [List.mapM_cons, Option.bind_eq_bind, Option.bind_eq_some_iff, Option.pure_def,
        Option.some.injEq, List.forall₂_cons_left_iff, ih]
      exact ⟨fun ⟨result, hresult, results, hresults, heq⟩ =>
          ⟨result, results, hresult, hresults, heq.symm⟩,
        fun ⟨result, results, hresult, hresults, heq⟩ =>
          ⟨result, hresult, results, hresults, heq.symm⟩⟩

theorem exists_forall₂_iff {related : α → β → Prop} {values : List α} :
    (∃ results, List.Forall₂ related values results) ↔
      ∀ value ∈ values, ∃ result, related value result := by
  induction values with
  | nil => exact ⟨fun _ => List.forall_mem_nil _, fun _ => ⟨[], .nil⟩⟩
  | cons value values ih =>
      rw [List.forall_mem_cons, ← ih]
      constructor
      · rintro ⟨results, hresults⟩
        rcases List.forall₂_cons_left_iff.mp hresults with ⟨result, results, h, hrest, -⟩
        exact ⟨⟨result, h⟩, ⟨results, hrest⟩⟩
      · rintro ⟨⟨result, h⟩, results, hresults⟩
        exact ⟨result :: results, .cons h hresults⟩

theorem string?_eq_some_iff {value : Value} {text : String} :
    value.string? = some text ↔ value = .string text := by
  cases value <;> simp [Data.string?]

theorem items?_eq_some_iff {value : Value} {values : List Value} :
    value.items? = some values ↔ value = .array values := by
  cases value <;> simp [Data.items?]

theorem isObject_of_get? {value found : Value} {key : String} (h : value.get? key = some found) :
    value.isObject = true := by
  cases value with
  | object => rfl
  | _ => cases h

-- A record with a required key is lacking in whatever is no object.
theorem isObject_of_not_lacks {key : String} {schema : Schema}
    {entries : List Schema.Entry} {value : Value}
    (hlacks : ¬ (Schema.record (.required key schema :: entries)).Lacks value) :
    value.isObject = true := by
  rcases Option.ne_none_iff_exists'.mp ((Schema.not_lacks_record_cons.mp hlacks).1 rfl)
    with ⟨found, hfound⟩
  exact isObject_of_get? hfound

theorem textAt?_eq_some_iff {value : Value} {key text : String} :
    textAt? value key = some text ↔ value.get? key = some (.string text) := by
  simp only [textAt?, Option.bind_eq_some_iff, string?_eq_some_iff, exists_eq_right]

namespace GroupTag

theorem ofShape_eq_some_iff {value : Value} {tag : GroupTag} :
    ofShape value = some tag ↔ Describes value tag := by
  rcases tag with ⟨name, member⟩
  simp only [ofShape, Option.bind_eq_bind, Option.bind_eq_some_iff, textAt?_eq_some_iff,
    Option.pure_def, Option.some.injEq, mk.injEq]
  constructor
  · rintro ⟨name, hname, member, hmember, rfl, rfl⟩
    exact ⟨hname, hmember⟩
  · rintro ⟨hname, hmember⟩
    exact ⟨name, hname, member, hmember, rfl, rfl⟩

end GroupTag

theorem optionalAt?_string?_eq_some_iff {value : Value} {key : String} {comment : Option String} :
    optionalAt? Data.string? value key = some comment ↔ Notes (value.get? key) comment := by
  unfold optionalAt?
  cases value.get? key with
  | none =>
      constructor
      · rintro ⟨⟩
        exact .absent
      · rintro ⟨⟩
        rfl
  | some found =>
      constructor
      · cases found with
        | null =>
            rintro ⟨⟩
            exact .null
        | string text =>
            rintro ⟨⟩
            exact .text text
        | _ => rintro ⟨⟩
      · rintro (_ | _ | _) <;> rfl

namespace Field

theorem ofShape_eq_some_iff {value : Value} {field : Field} :
    ofShape value = some field ↔ Describes value field := by
  rcases field with ⟨name, type, comment, groups⟩
  simp only [ofShape, Option.bind_eq_bind, Option.bind_eq_some_iff, textAt?_eq_some_iff,
    optionalAt?_string?_eq_some_iff, Option.pure_def]
  -- What is done about the groups is decided before they are read.
  cases hfound : value.get? "groups" with
  | none =>
      simp only [Option.bind_some, Option.some.injEq, mk.injEq]
      constructor
      · rintro ⟨name, hname, type, htype, comment, hcomment, rfl, rfl, rfl, rfl⟩
        exact ⟨hname, htype, hcomment, hfound ▸ .absent⟩
      · rintro ⟨hname, htype, hcomment, hgroups⟩
        rw [hfound] at hgroups
        cases hgroups
        exact ⟨name, hname, type, htype, comment, hcomment, rfl, rfl, rfl, rfl⟩
  | some found =>
      simp only [Option.bind_eq_some_iff, items?_eq_some_iff, mapM_eq_some_iff,
        GroupTag.ofShape_eq_some_iff, Option.some.injEq, mk.injEq]
      constructor
      · rintro ⟨name, hname, type, htype, comment, hcomment, values, rfl, groups, hgroups, rfl, rfl,
          rfl, rfl⟩
        exact ⟨hname, htype, hcomment, hfound ▸ .given hgroups⟩
      · rintro ⟨hname, htype, hcomment, hgroups⟩
        rw [hfound] at hgroups
        rcases hgroups with _ | hgroups
        exact ⟨name, hname, type, htype, comment, hcomment, _, rfl, groups, hgroups, rfl, rfl, rfl,
          rfl⟩

end Field

theorem PhpSection.ofShape_eq_some_iff {value : Value} {php : PhpSection}
    (hobject : value.isObject = true) : ofShape value = some php ↔ Describes value php := by
  rcases php with ⟨namespaceName, className⟩
  cases value with
  | object members =>
      simp only [ofShape, Option.bind_eq_bind, Option.bind_eq_some_iff, textAt?_eq_some_iff,
        Option.pure_def, Option.some.injEq, mk.injEq]
      constructor
      · rintro ⟨namespaceName, hnamespace, className, hclass, rfl, rfl⟩
        exact ⟨hnamespace, hclass⟩
      · rintro ⟨hnamespace, hclass⟩
        exact ⟨namespaceName, hnamespace, className, hclass, rfl, rfl⟩
  | _ => cases hobject

theorem TsSection.ofShape_eq_some_iff {value : Value} {ts : TsSection}
    (hobject : value.isObject = true) : ofShape value = some ts ↔ Describes value ts := by
  rcases ts with ⟨className⟩
  cases value with
  | object members =>
      simp only [ofShape, Option.bind_eq_bind, Option.bind_eq_some_iff, textAt?_eq_some_iff,
        Option.pure_def, Option.some.injEq, mk.injEq]
      constructor
      · rintro ⟨className, hclass, rfl⟩
        exact ⟨hclass⟩
      · rintro ⟨hclass⟩
        exact ⟨className, hclass, rfl⟩
  | _ => cases hobject

/-- A section that is an object if it is there is read as such. -/
theorem optionalAt?_eq_some_iff {read : Value → Option α} {described : Value → α → Prop}
    (hread : ∀ {value : Value} {result : α}, value.isObject = true →
      (read value = some result ↔ described value result))
    {value : Value} {key : String} {result : Option α}
    (hobject : ∀ found, value.get? key = some found → found.isObject = true) :
    optionalAt? read value key = some result ↔ Option.Rel described (value.get? key) result := by
  unfold optionalAt?
  cases hfound : value.get? key with
  | none =>
      constructor
      · rintro ⟨⟩
        exact .none
      · rintro ⟨⟩
        rfl
  | some found =>
      -- An object is not null, so the value is read like a required one.
      have hobject := hobject found hfound
      have hnull : found.isNull = false := by
        cases found with
        | object => rfl
        | _ => cases hobject
      simp only [unlessNull, hnull, Bool.false_eq_true, if_false, Option.map_eq_some_iff,
        hread hobject]
      constructor
      · rintro ⟨result, hresult, rfl⟩
        exact .some hresult
      · rintro (hresult | _)
        exact ⟨_, hresult, rfl⟩

theorem Sections.ofShape_eq_some_iff {value : Value} {sections : Sections}
    (hobject : value.isObject = true) (hlacks : ¬ sectionsSchema.Lacks value) :
    ofShape value = some sections ↔ Describes value sections := by
  rcases sections with ⟨php, ts⟩
  -- A section has required keys, so one that lacks none of them is an object.
  rcases Schema.not_lacks_record_cons.mp hlacks with ⟨-, hphp, hrest⟩
  rcases Schema.not_lacks_record_cons.mp hrest with ⟨-, hts, -⟩
  have hphp : ∀ found, value.get? "php" = some found → found.isObject = true :=
    fun found hfound => isObject_of_not_lacks (hphp found hfound)
  have hts : ∀ found, value.get? "ts" = some found → found.isObject = true :=
    fun found hfound => isObject_of_not_lacks (hts found hfound)
  cases value with
  | object members =>
      simp only [ofShape, Data.isObject, guard_true, Option.bind_eq_bind, Option.bind_eq_some_iff,
        Option.pure_def, Option.some.injEq, mk.injEq,
        optionalAt?_eq_some_iff PhpSection.ofShape_eq_some_iff hphp,
        optionalAt?_eq_some_iff TsSection.ofShape_eq_some_iff hts]
      constructor
      · rintro ⟨_, _, php, hphp, ts, hts, rfl, rfl⟩
        exact ⟨rfl, hphp, hts⟩
      · rintro ⟨-, hphp, hts⟩
        exact ⟨(), trivial, php, hphp, ts, hts, rfl, rfl⟩
  | _ => cases hobject

theorem ofShape_eq_some_iff {value : Value} {spec : Spec} (hlacks : ¬ specSchema.Lacks value)
    (hlang : ∀ lang, value.get? "lang" = some lang → lang.isObject = true) :
    ofShape value = some spec ↔ Describes value spec := by
  rcases spec with ⟨outDir, sections, fields⟩
  have hsections : ∀ lang sections, value.get? "lang" = some lang →
      (Sections.ofShape lang = some sections ↔ Sections.Describes lang sections) := by
    intro lang sections hfound
    rcases Schema.not_lacks_record_cons.mp hlacks with ⟨-, -, hrest⟩
    rcases Schema.not_lacks_record_cons.mp hrest with ⟨-, hsections, -⟩
    exact Sections.ofShape_eq_some_iff (hlang lang hfound) (hsections lang hfound)
  simp only [ofShape, Option.bind_eq_bind, Option.bind_eq_some_iff, textAt?_eq_some_iff,
    items?_eq_some_iff, mapM_eq_some_iff, Field.ofShape_eq_some_iff, Option.pure_def,
    Option.some.injEq, mk.injEq]
  constructor
  · rintro ⟨outDir, houtDir, sections, ⟨lang, hfound, hlang⟩, _, ⟨_, hitems, rfl⟩, fields, hfields,
      rfl, rfl, rfl⟩
    exact ⟨houtDir, ⟨lang, hfound, (hsections lang sections hfound).mp hlang⟩, _, hitems, hfields⟩
  · rintro ⟨houtDir, ⟨lang, hfound, hlang⟩, values, hitems, hfields⟩
    exact ⟨outDir, houtDir, sections, ⟨lang, hfound, (hsections lang sections hfound).mpr hlang⟩,
      values, ⟨_, hitems, rfl⟩, fields, hfields, rfl, rfl, rfl⟩

end Reading

section Describing

theorem GroupTag.exists_describes_iff {value : Value} :
    (∃ tag, GroupTag.Describes value tag) ↔ tagSchema.Fits value := by
  simp only [tagSchema, Schema.fits_required, Schema.fits_record_nil, Schema.fits_text]
  constructor
  · rintro ⟨tag, hname, hmember⟩
    exact ⟨⟨_, hname, _, rfl⟩, ⟨_, hmember, _, rfl⟩, isObject_of_get? hname⟩
  · rintro ⟨⟨_, hname, name, rfl⟩, ⟨_, hmember, member, rfl⟩, -⟩
    exact ⟨⟨name, member⟩, hname, hmember⟩

theorem PhpSection.exists_describes_iff {value : Value} :
    (∃ php, PhpSection.Describes value php) ↔ phpSchema.Fits value := by
  simp only [phpSchema, Schema.fits_required, Schema.fits_record_nil, Schema.fits_text]
  constructor
  · rintro ⟨php, hnamespace, hclass⟩
    exact ⟨⟨_, hnamespace, _, rfl⟩, ⟨_, hclass, _, rfl⟩, isObject_of_get? hclass⟩
  · rintro ⟨⟨_, hnamespace, namespaceName, rfl⟩, ⟨_, hclass, className, rfl⟩, -⟩
    exact ⟨⟨namespaceName, className⟩, hnamespace, hclass⟩

theorem TsSection.exists_describes_iff {value : Value} :
    (∃ ts, TsSection.Describes value ts) ↔ tsSchema.Fits value := by
  simp only [tsSchema, Schema.fits_required, Schema.fits_record_nil, Schema.fits_text]
  constructor
  · rintro ⟨ts, ⟨hclass⟩⟩
    exact ⟨⟨_, hclass, _, rfl⟩, isObject_of_get? hclass⟩
  · rintro ⟨⟨_, hclass, className, rfl⟩, -⟩
    exact ⟨⟨className⟩, ⟨hclass⟩⟩

theorem exists_notes_iff {found : Option Value} :
    (∃ comment, Notes found comment) ↔ ∀ value, found = some value → Schema.note.Fits value := by
  constructor
  · rintro ⟨comment, hcomment⟩ value rfl
    cases hcomment with
    | null => exact .noNote
    | text text => exact .note text
  · intro hfits
    cases found with
    | none => exact ⟨none, .absent⟩
    | some value =>
        cases hfits value rfl with
        | note text => exact ⟨some text, .text text⟩
        | noNote => exact ⟨none, .null⟩

theorem exists_tagged_iff {found : Option Value} :
    (∃ tags, Tagged found tags) ↔
      ∀ value, found = some value → (Schema.items tagSchema).Fits value := by
  simp only [Schema.fits_items, ← GroupTag.exists_describes_iff, ← exists_forall₂_iff]
  constructor
  · rintro ⟨tags, htags⟩ value rfl
    cases htags with
    | given htags => exact ⟨_, rfl, tags, htags⟩
  · intro hfits
    cases found with
    | none => exact ⟨[], .absent⟩
    | some value =>
        rcases hfits value rfl with ⟨values, rfl, tags, htags⟩
        exact ⟨tags, .given htags⟩

theorem Field.exists_describes_iff {value : Value} :
    (∃ field, Field.Describes value field) ↔ fieldSchema.Fits value := by
  simp only [fieldSchema, Schema.fits_required, Schema.fits_optional, Schema.fits_record_nil,
    Schema.fits_text, ← exists_notes_iff, ← exists_tagged_iff]
  constructor
  · rintro ⟨field, hname, htype, hcomment, hgroups⟩
    exact ⟨⟨_, hname, _, rfl⟩, ⟨_, htype, _, rfl⟩, ⟨_, hcomment⟩, ⟨_, hgroups⟩,
      isObject_of_get? hname⟩
  · rintro ⟨⟨_, hname, name, rfl⟩, ⟨_, htype, type, rfl⟩, ⟨comment, hcomment⟩,
      ⟨groups, hgroups⟩, -⟩
    exact ⟨⟨name, type, comment, groups⟩, hname, htype, hcomment, hgroups⟩

theorem exists_rel_iff {α : Type} {described : Value → α → Prop} {found : Option Value} :
    (∃ result, Option.Rel described found result) ↔
      ∀ value, found = some value → ∃ result, described value result := by
  constructor
  · rintro ⟨result, hresult⟩ value rfl
    cases hresult with
    | some hresult => exact ⟨_, hresult⟩
  · intro hfound
    cases found with
    | none => exact ⟨none, .none⟩
    | some value =>
        rcases hfound value rfl with ⟨result, hresult⟩
        exact ⟨some result, .some hresult⟩

theorem Sections.exists_describes_iff {value : Value} :
    (∃ sections, Sections.Describes value sections) ↔ sectionsSchema.Fits value := by
  simp only [sectionsSchema, Schema.fits_optional, Schema.fits_record_nil,
    ← PhpSection.exists_describes_iff, ← TsSection.exists_describes_iff, ← exists_rel_iff]
  constructor
  · rintro ⟨sections, hobject, hphp, hts⟩
    exact ⟨⟨_, hphp⟩, ⟨_, hts⟩, hobject⟩
  · rintro ⟨⟨php, hphp⟩, ⟨ts, hts⟩, hobject⟩
    exact ⟨⟨php, ts⟩, hobject, hphp, hts⟩

/-- The values that describe a spec are those of the shape of one. -/
theorem exists_describes_iff {value : Value} :
    (∃ spec, Describes value spec) ↔ specSchema.Fits value := by
  simp only [specSchema, Schema.fits_required, Schema.fits_record_nil, Schema.fits_text,
    Schema.fits_items, ← Sections.exists_describes_iff, ← Field.exists_describes_iff,
    ← exists_forall₂_iff]
  constructor
  · rintro ⟨spec, houtDir, ⟨lang, hlang, hsections⟩, values, hvalues, hfields⟩
    exact ⟨⟨_, houtDir, _, rfl⟩, ⟨lang, hlang, _, hsections⟩,
      ⟨_, hvalues, values, rfl, _, hfields⟩, isObject_of_get? houtDir⟩
  · rintro ⟨⟨_, houtDir, outDir, rfl⟩, ⟨lang, hlang, sections, hsections⟩,
      ⟨_, hvalues, values, rfl, fields, hfields⟩, -⟩
    exact ⟨⟨outDir, sections, fields⟩, houtDir, ⟨lang, hlang, hsections⟩, values, hvalues, hfields⟩

/-- What describes a spec says where its sections are. -/
theorem Describes.isObject_lang {value : Value} {spec : Spec} (h : Describes value spec) :
    ∀ lang, value.get? "lang" = some lang → lang.isObject = true := by
  intro lang hlang
  rcases h.sections with ⟨found, hfound, hsections⟩
  rw [hfound] at hlang
  cases hlang
  exact hsections.isObject

end Describing

/-- A value that describes a spec is read as that spec, less the comments that
    say nothing. -/
theorem ofValue_of_describes {value : Value} {spec : Spec} (h : Describes value spec) :
    ofValue value = .ok spec.normalized := by
  have hlacks : ¬ specSchema.Lacks value := (exists_describes_iff.mp ⟨spec, h⟩).not_lacks
  rw [ofValue, firstMissing_eq_none_iff.mpr hlacks,
    (ofShape_eq_some_iff hlacks h.isObject_lang).mpr h]

/-- What comes of the two passes over a value. -/
theorem ofValue_cases (value : Value) :
    (∃ path, firstMissing value = some path ∧ ofValue value = .error (.missingKey path)) ∨
      (firstMissing value = none ∧ ofShape value = none ∧
        ofValue value = .error (.invalid .misshapen)) ∨
      (∃ written, firstMissing value = none ∧ ofShape value = some written ∧
        ofValue value = .ok written.normalized) := by
  unfold ofValue
  cases firstMissing value with
  | some path => exact .inl ⟨path, rfl, rfl⟩
  | none =>
      cases ofShape value with
      | none => exact .inr (.inl ⟨rfl, rfl, rfl⟩)
      | some written => exact .inr (.inr ⟨written, rfl, rfl, rfl⟩)

theorem ofValue_eq_ok_iff {value : Value} {spec : Spec}
    (hlang : ∀ lang, value.get? "lang" = some lang → lang.isObject = true) :
    ofValue value = .ok spec ↔ ∃ written, Describes value written ∧ spec = written.normalized := by
  constructor
  · intro hread
    rcases ofValue_cases value with ⟨path, -, h⟩ | ⟨-, -, h⟩ | ⟨written, hmissing, hshape, h⟩
    · rw [h] at hread
      cases hread
    · rw [h] at hread
      cases hread
    · rw [h] at hread
      cases hread
      have hlacks := firstMissing_eq_none_iff.mp hmissing
      exact ⟨written, (ofShape_eq_some_iff hlacks hlang).mp hshape, rfl⟩
  · rintro ⟨written, hwritten, rfl⟩
    exact ofValue_of_describes hwritten

theorem exists_missingKey_iff {value : Value} :
    (∃ path, ofValue value = .error (.missingKey path)) ↔ specSchema.Lacks value := by
  rw [← Classical.not_not (a := specSchema.Lacks value), ← firstMissing_eq_none_iff]
  rcases ofValue_cases value with ⟨path, hmissing, h⟩ | ⟨hmissing, -, h⟩ | ⟨written, hmissing, -, h⟩
  · simp [h, hmissing]
  · simp [h, hmissing]
  · simp [h, hmissing]

theorem exists_invalid_iff {value : Value}
    (hlang : ∀ lang, value.get? "lang" = some lang → lang.isObject = true) :
    (∃ fault, ofValue value = .error (.invalid fault)) ↔
      ¬ specSchema.Lacks value ∧ specSchema.Clashes value := by
  rw [← firstMissing_eq_none_iff]
  rcases ofValue_cases value with ⟨path, hmissing, h⟩ | ⟨hmissing, hshape, h⟩ |
    ⟨written, hmissing, hshape, h⟩
  · simp only [h, hmissing, Except.error.injEq, reduceCtorEq, exists_false, false_and]
  · refine iff_of_true ⟨.misshapen, h⟩ ⟨hmissing, ?_⟩
    have hlacks := firstMissing_eq_none_iff.mp hmissing
    -- There is no third way not to fit.
    by_contra hclashes
    rcases exists_describes_iff.mpr (Schema.fits_of_not hlacks hclashes) with ⟨spec, hspec⟩
    rw [(ofShape_eq_some_iff hlacks hlang).mpr hspec] at hshape
    cases hshape
  · have hlacks := firstMissing_eq_none_iff.mp hmissing
    have hfits : specSchema.Fits value :=
      exists_describes_iff.mp ⟨written, (ofShape_eq_some_iff hlacks hlang).mp hshape⟩
    simp only [h, hfits.not_clashes, reduceCtorEq, exists_false, and_false]

/-- Which values are specs, and what is wrong with the others. A value is read as
    a spec exactly if it has the shape of one, and then as the spec it describes,
    except that an empty comment counts as none. A required key that is absent is
    always reported as such; otherwise the value is misshapen exactly if
    something in it is of the wrong kind. -/
theorem accepted_exactly_by_schema (value : Value)
    (hlang : ∀ lang, value.get? "lang" = some lang → lang.isObject = true) :
    ((∃ spec, ofValue value = .ok spec) ↔ specSchema.Fits value) ∧
      (∀ spec, ofValue value = .ok spec ↔ ∃ written, Describes value written ∧
        spec = { written with
          fields := written.fields.map fun field =>
            { field with comment := if field.comment = some "" then none else field.comment } }) ∧
      ((∃ fault, ofValue value = .error (.invalid fault)) ↔
        ¬ specSchema.Lacks value ∧ specSchema.Clashes value) ∧
      ((∃ path, ofValue value = .error (.missingKey path)) ↔ specSchema.Lacks value) := by
  refine ⟨?_, fun spec => ofValue_eq_ok_iff hlang, exists_invalid_iff hlang,
    exists_missingKey_iff⟩
  rw [← exists_describes_iff]
  constructor
  · rintro ⟨spec, hread⟩
    rcases (ofValue_eq_ok_iff hlang).mp hread with ⟨written, hwritten, -⟩
    exact ⟨written, hwritten⟩
  · rintro ⟨written, hwritten⟩
    exact ⟨_, ofValue_of_describes hwritten⟩

theorem accepted_exactly_by_schema_unknown_keys :
    let value : Value := .object
      [ .member "version" (.number ['1']),
        .member "fields" (.array [.object
          [ textMember "type" "string", textMember "name" "id", .member "comment" .null,
            .member "groups" (.array [.object
              [textMember "name" "row", textMember "member" "key", .member "order" .null]]) ]]),
        .member "lang" (.object
          [.member "ts" (.object [textMember "clazz" "Item"]), .member "go" (.bool false)]),
        textMember "outDir" "out" ]
    let spec : Spec := ⟨"out", ⟨none, some ⟨"Item"⟩⟩, [⟨"id", "string", none, [⟨"row", "key"⟩]⟩]⟩
    (∀ lang, value.get? "lang" = some lang → lang.isObject = true) ∧ specSchema.Fits value ∧
      ∃ written, Describes value written ∧
        spec = { written with
          fields := written.fields.map fun field =>
            { field with
              comment := if field.comment = some "" then none else field.comment } } := by
  intro value spec
  have hlang : ∀ lang, value.get? "lang" = some lang → lang.isObject = true := by
    rintro lang ⟨⟩
    rfl
  have hread : ofValue value = .ok spec := by decide
  have haccepted := accepted_exactly_by_schema value hlang
  exact ⟨hlang, haccepted.1.mp ⟨spec, hread⟩, (haccepted.2.1 spec).mp hread⟩

/-- An empty comment is not kept: the spec that is read from this value is not the
    one it describes. -/
theorem empty_comment_not_kept :
    let value := toValue ⟨"out", ⟨some ⟨"App", "Item"⟩, some ⟨"Item"⟩⟩,
      [⟨"id", "string", some "", []⟩]⟩
    let spec : Spec := ⟨"out", ⟨some ⟨"App", "Item"⟩, some ⟨"Item"⟩⟩,
      [⟨"id", "string", none, []⟩]⟩
    (∀ lang, value.get? "lang" = some lang → lang.isObject = true) ∧
      ofValue value = .ok spec ∧ ¬ Describes value spec := by
  intro value spec
  have hlang : ∀ lang, value.get? "lang" = some lang → lang.isObject = true := by
    rintro lang ⟨⟩
    rfl
  refine ⟨hlang, by decide, ?_⟩
  rintro ⟨-, -, values, hvalues, hfields⟩
  cases hvalues
  cases hfields with
  | cons hfield => cases hfield.comment

end Spec

end ClassForge
