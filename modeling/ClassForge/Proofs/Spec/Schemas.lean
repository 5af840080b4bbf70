import ClassForge.Spec.Reader

/-!
# Schemas of Specs

What a spec has to look like, as a description that knows nothing of how a spec
is read: which keys an object has to have or may have, and what kind of value
stands under each.

A value can fail to fit in two ways. It can lack something, a required
key that is absent, and it can clash, a value of the wrong kind that is present.
Only an object has keys, so something that is no object lacks every key of a
record and clashes with it too. `fits_of_not` says that there is no third way.

The first pass over a value that is to be a spec looks for what it lacks, and
`firstMissing_eq_none_iff` says that it finds exactly that.

## Main definitions

* `Schema`, `Schema.Entry`: Kinds of values, and the entries of records.
* `specSchema`: The schema of a spec.
* `Schema.Fits`: A value fits.
* `Schema.Lacks`: A required key is absent.
* `Schema.Clashes`: A value that is present is of the wrong kind.

## Theorems

* `Schema.fits_of_not`: What neither lacks nor clashes fits.
* `Schema.Fits.not_lacks`, `Schema.Fits.not_clashes`: What fits does neither.
* `firstMissing_eq_none_iff`: No key is missing exactly if the value lacks
  nothing.
-/

namespace ClassForge

namespace Spec

open Json

mutual

/-- A kind of value. -/
inductive Schema where
  /-- A string. -/
  | text
  /-- A string or null. -/
  | note
  /-- An array of items of one kind. -/
  | items (item : Schema)
  /-- An object with at least these entries. -/
  | record (entries : List Schema.Entry)

/-- An entry of a record. -/
inductive Schema.Entry where
  /-- A key that has to be there. -/
  | required (key : String) (schema : Schema)
  /-- A key that may be there. -/
  | optional (key : String) (schema : Schema)

end

namespace Schema.Entry

/-- The key of an entry. -/
@[simp]
def key : Entry → String
  | .required key _ => key
  | .optional key _ => key

/-- The schema of what stands under the key. -/
@[simp]
def schema : Entry → Schema
  | .required _ schema => schema
  | .optional _ schema => schema

/-- Whether the key has to be there. -/
@[simp]
def isRequired : Entry → Bool
  | .required _ _ => true
  | .optional _ _ => false

end Schema.Entry

/-- The schema of a tag. -/
def tagSchema : Schema := .record [.required "name" .text, .required "member" .text]

/-- The schema of a field. -/
def fieldSchema : Schema :=
  .record
    [ .required "name" .text,
      .required "type" .text,
      .optional "comment" .note,
      .optional "groups" (.items tagSchema) ]

/-- The schema of the section for PHP. -/
def phpSchema : Schema := .record [.required "namespace" .text, .required "clazz" .text]

/-- The schema of the section for TypeScript. -/
def tsSchema : Schema := .record [.required "clazz" .text]

/-- The schema of the sections. -/
def sectionsSchema : Schema := .record [.optional "php" phpSchema, .optional "ts" tsSchema]

/-- The schema of a spec. -/
def specSchema : Schema :=
  .record
    [ .required "outDir" .text,
      .required "lang" sectionsSchema,
      .required "fields" (.items fieldSchema) ]

namespace Schema

/-- A value fits. Keys that a record does not mention do not matter. -/
inductive Fits : Schema → Value → Prop where
  | text (text : String) : Fits .text (.string text)
  | note (text : String) : Fits .note (.string text)
  | noNote : Fits .note .null
  | items {item : Schema} {values : List Value} (h : ∀ value ∈ values, Fits item value) :
      Fits (.items item) (.array values)
  | record {entries : List Entry} {value : Value} (hobject : value.isObject = true)
      (hpresent : ∀ entry ∈ entries, entry.isRequired = true → value.get? entry.key ≠ none)
      (hfound : ∀ entry ∈ entries, ∀ found, value.get? entry.key = some found →
        Fits entry.schema found) :
      Fits (.record entries) value

/-- A required key is absent, in the value or somewhere inside it. -/
inductive Lacks : Schema → Value → Prop where
  | absent {entries : List Entry} {value : Value} {entry : Entry} (hentry : entry ∈ entries)
      (hrequired : entry.isRequired = true) (habsent : value.get? entry.key = none) :
      Lacks (.record entries) value
  | under {entries : List Entry} {value found : Value} {entry : Entry}
      (hentry : entry ∈ entries) (hfound : value.get? entry.key = some found)
      (h : Lacks entry.schema found) : Lacks (.record entries) value
  | item {item : Schema} {values : List Value} {value : Value} (hvalue : value ∈ values)
      (h : Lacks item value) : Lacks (.items item) (.array values)

/-- A value is of the wrong kind, this one or one that is somewhere inside it. -/
inductive Clashes : Schema → Value → Prop where
  | text {value : Value} (h : value.string? = none) : Clashes .text value
  | note {value : Value} (h : value.string? = none) (hnull : value.isNull = false) :
      Clashes .note value
  | items {item : Schema} {value : Value} (h : value.items? = none) : Clashes (.items item) value
  | item {item : Schema} {values : List Value} {value : Value} (hvalue : value ∈ values)
      (h : Clashes item value) : Clashes (.items item) (.array values)
  | record {entries : List Entry} {value : Value} (h : value.isObject = false) :
      Clashes (.record entries) value
  | under {entries : List Entry} {value found : Value} {entry : Entry}
      (hentry : entry ∈ entries) (hfound : value.get? entry.key = some found)
      (h : Clashes entry.schema found) : Clashes (.record entries) value

mutual

/-- Induction over schemas, with the hypothesis for every entry of a record. -/
theorem induction {motive : Schema → Prop} (htext : motive .text) (hnote : motive .note)
    (hitems : ∀ item, motive item → motive (.items item))
    (hrecord : ∀ entries : List Entry, (∀ entry ∈ entries, motive entry.schema) →
      motive (.record entries)) : (schema : Schema) → motive schema
  | .text => htext
  | .note => hnote
  | .items item => hitems item (induction htext hnote hitems hrecord item)
  | .record entries => hrecord entries (entries_induction htext hnote hitems hrecord entries)

theorem entry_induction {motive : Schema → Prop} (htext : motive .text) (hnote : motive .note)
    (hitems : ∀ item, motive item → motive (.items item))
    (hrecord : ∀ entries : List Entry, (∀ entry ∈ entries, motive entry.schema) →
      motive (.record entries)) : (entry : Entry) → motive entry.schema
  | .required _ schema => induction htext hnote hitems hrecord schema
  | .optional _ schema => induction htext hnote hitems hrecord schema

theorem entries_induction {motive : Schema → Prop} (htext : motive .text) (hnote : motive .note)
    (hitems : ∀ item, motive item → motive (.items item))
    (hrecord : ∀ entries : List Entry, (∀ entry ∈ entries, motive entry.schema) →
      motive (.record entries)) : (entries : List Entry) → ∀ entry ∈ entries, motive entry.schema
  | [] => List.forall_mem_nil _
  | entry :: entries => List.forall_mem_cons.mpr
    ⟨entry_induction htext hnote hitems hrecord entry,
      entries_induction htext hnote hitems hrecord entries⟩

end

/-- What neither lacks a key nor clashes fits. -/
theorem fits_of_not {schema : Schema} {value : Value} (hlacks : ¬ schema.Lacks value)
    (hclashes : ¬ schema.Clashes value) : schema.Fits value := by
  induction schema using Schema.induction generalizing value with
  | htext =>
      cases value with
      | string text => exact .text text
      | _ => exact absurd (.text rfl) hclashes
  | hnote =>
      cases value with
      | string text => exact .note text
      | null => exact .noNote
      | _ => exact absurd (.note rfl rfl) hclashes
  | hitems item ih =>
      cases value with
      | array values =>
          exact .items fun value hvalue =>
            ih (fun h => hlacks (.item hvalue h)) fun h => hclashes (.item hvalue h)
      | _ => exact absurd (.items rfl) hclashes
  | hrecord entries ih =>
      -- A record fits by its members: each that is required is there, and each that is there fits.
      refine .record ?_ ?_ ?_
      · rw [← Bool.not_eq_false]
        exact fun h => hclashes (.record h)
      · exact fun entry hentry hrequired habsent => hlacks (.absent hentry hrequired habsent)
      · exact fun entry hentry found hfound =>
          ih entry hentry (fun h => hlacks (.under hentry hfound h))
            fun h => hclashes (.under hentry hfound h)

theorem Fits.not_lacks {schema : Schema} {value : Value} (hfits : schema.Fits value) :
    ¬ schema.Lacks value := by
  induction hfits with
  | text => rintro ⟨⟩
  | note => rintro ⟨⟩
  | noNote => rintro ⟨⟩
  | items h ih =>
      intro hlacks
      cases hlacks with
      | item hvalue h => exact ih _ hvalue h
  | record hobject hpresent hfound ih =>
      intro hlacks
      cases hlacks with
      | absent hentry hrequired habsent => exact hpresent _ hentry hrequired habsent
      | under hentry hfound h => exact ih _ hentry _ hfound h

theorem Fits.not_clashes {schema : Schema} {value : Value} (hfits : schema.Fits value) :
    ¬ schema.Clashes value := by
  induction hfits with
  | text =>
      intro hclashes
      cases hclashes with
      | text h => cases h
  | note =>
      intro hclashes
      cases hclashes with
      | note h => cases h
  | noNote =>
      intro hclashes
      cases hclashes with
      | note _ hnull => cases hnull
  | items h ih =>
      intro hclashes
      cases hclashes with
      | items h => cases h
      | item hvalue h => exact ih _ hvalue h
  | record hobject hpresent hfound ih =>
      -- A member that clashes would have to be there, and what is there fits.
      intro hclashes
      cases hclashes with
      | record h => rw [h] at hobject; cases hobject
      | under hentry hfound h => exact ih _ hentry _ hfound h

@[simp]
theorem not_lacks_record_nil {value : Value} : ¬ (record []).Lacks value := by
  intro hlacks
  cases hlacks with
  | absent hentry => cases hentry
  | under hentry => cases hentry

@[simp]
theorem not_lacks_record_cons {entry : Entry} {entries : List Entry} {value : Value} :
    ¬ (record (entry :: entries)).Lacks value ↔
      (entry.isRequired = true → value.get? entry.key ≠ none) ∧
        (∀ found, value.get? entry.key = some found → ¬ entry.schema.Lacks found) ∧
        ¬ (record entries).Lacks value := by
  constructor
  · intro h
    refine ⟨fun hrequired habsent => h (.absent List.mem_cons_self hrequired habsent),
      fun found hfound hlacks => h (.under List.mem_cons_self hfound hlacks), fun hlacks => ?_⟩
    cases hlacks with
    | absent hentry hrequired habsent =>
        exact h (.absent (List.mem_cons_of_mem _ hentry) hrequired habsent)
    | under hentry hfound hlacks => exact h (.under (List.mem_cons_of_mem _ hentry) hfound hlacks)
  · rintro ⟨hpresent, hfits, hrest⟩ hlacks
    cases hlacks with
    | absent hentry hrequired habsent =>
        rcases List.mem_cons.mp hentry with rfl | hentry
        · exact hpresent hrequired habsent
        · exact hrest (.absent hentry hrequired habsent)
    | under hentry hfound hlacks =>
        rcases List.mem_cons.mp hentry with rfl | hentry
        · exact hfits _ hfound hlacks
        · exact hrest (.under hentry hfound hlacks)

theorem not_lacks_items_iff {item : Schema} {value : Value} :
    ¬ (items item).Lacks value ↔ ∀ found ∈ value.items?.getD [], ¬ item.Lacks found := by
  constructor
  · intro h found hfound hlacks
    cases value with
    | array values => exact h (.item hfound hlacks)
    | _ => cases hfound
  · intro h hlacks
    cases hlacks with
    | item hvalue hlacks => exact h _ hvalue hlacks

@[simp]
theorem not_lacks_text {value : Value} : ¬ text.Lacks value := by rintro ⟨⟩

@[simp]
theorem not_lacks_note {value : Value} : ¬ note.Lacks value := by rintro ⟨⟩

theorem fits_record_nil {value : Value} :
    (record []).Fits value ↔ value.isObject = true := by
  constructor
  · intro hfits
    cases hfits with
    | record hobject => exact hobject
  · exact fun hobject => .record hobject (List.forall_mem_nil _) (List.forall_mem_nil _)

theorem fits_record_cons {entry : Entry} {entries : List Entry} {value : Value} :
    (record (entry :: entries)).Fits value ↔
      (entry.isRequired = true → value.get? entry.key ≠ none) ∧
        (∀ found, value.get? entry.key = some found → entry.schema.Fits found) ∧
        (record entries).Fits value := by
  constructor
  · intro hfits
    cases hfits with
    | record hobject hpresent hfound =>
        rw [List.forall_mem_cons] at hpresent hfound
        exact ⟨hpresent.1, hfound.1, .record hobject hpresent.2 hfound.2⟩
  · rintro ⟨hpresent, hfound, hfits⟩
    cases hfits with
    | record hobject hpresents hfounds =>
        exact .record hobject (List.forall_mem_cons.mpr ⟨hpresent, hpresents⟩)
          (List.forall_mem_cons.mpr ⟨hfound, hfounds⟩)

theorem fits_required {key : String} {schema : Schema} {entries : List Entry} {value : Value} :
    (record (.required key schema :: entries)).Fits value ↔
      (∃ found, value.get? key = some found ∧ schema.Fits found) ∧
        (record entries).Fits value := by
  rw [fits_record_cons, ← and_assoc]
  refine and_congr_left' ⟨?_, ?_⟩
  · rintro ⟨hpresent, hfound⟩
    rcases Option.ne_none_iff_exists'.mp (hpresent rfl) with ⟨found, hget⟩
    exact ⟨found, hget, hfound found hget⟩
  · rintro ⟨found, hget, hfits⟩
    refine ⟨fun _ => Option.ne_none_iff_exists'.mpr ⟨found, hget⟩, fun other hother => ?_⟩
    rw [Entry.key, hget] at hother
    cases hother
    exact hfits

theorem fits_optional {key : String} {schema : Schema} {entries : List Entry} {value : Value} :
    (record (.optional key schema :: entries)).Fits value ↔
      (∀ found, value.get? key = some found → schema.Fits found) ∧
        (record entries).Fits value := by
  rw [fits_record_cons]
  exact and_iff_right fun hrequired => nomatch hrequired

theorem fits_text {value : Value} : text.Fits value ↔ ∃ text, value = .string text := by
  constructor
  · intro hfits
    cases hfits with
    | text text => exact ⟨text, rfl⟩
  · rintro ⟨text, rfl⟩
    exact .text text

theorem fits_items {item : Schema} {value : Value} :
    (items item).Fits value ↔
      ∃ values, value = .array values ∧ ∀ value ∈ values, item.Fits value := by
  constructor
  · intro hfits
    cases hfits with
    | items h => exact ⟨_, rfl, h⟩
  · rintro ⟨values, rfl, h⟩
    exact .items h

end Schema

section Missing

theorem missingKey?_eq_none_iff {value : Value} {path : String} {keys : List String} :
    missingKey? value path keys = none ↔ ∀ key ∈ keys, value.get? key ≠ none := by
  simp only [missingKey?, Option.map_eq_none_iff, List.find?_eq_none, Option.isNone_iff_eq_none,
    ne_eq]

theorem missingInGroups_eq_none_iff {path : String} {index : Nat} {groups : List Value} :
    missingInGroups path index groups = none ↔ ∀ group ∈ groups, ¬ tagSchema.Lacks group := by
  induction groups generalizing index with
  | nil => simp only [missingInGroups, List.not_mem_nil, false_imp_iff, implies_true]
  | cons group groups ih =>
      rw [missingInGroups, Option.or_eq_none_iff, ih, List.forall_mem_cons,
        missingKey?_eq_none_iff]
      refine and_congr_left' ?_
      simp [tagSchema]

theorem forall_itemsAt_iff {value : Value} {key : String} {item : Schema} :
    (∀ found ∈ itemsAt value key, ¬ item.Lacks found) ↔
      ∀ found, value.get? key = some found → ¬ (Schema.items item).Lacks found := by
  unfold itemsAt
  simp only [Schema.not_lacks_items_iff]
  cases value.get? key with
  | none => simp only [Option.bind_none, Option.getD_none, List.not_mem_nil, false_imp_iff,
      implies_true, reduceCtorEq]
  | some found => simp only [Option.bind_some, Option.some.injEq, forall_eq']

theorem missingInFields_eq_none_iff {index : Nat} {fields : List Value} :
    missingInFields index fields = none ↔ ∀ field ∈ fields, ¬ fieldSchema.Lacks field := by
  induction fields generalizing index with
  | nil => simp only [missingInFields, List.not_mem_nil, false_imp_iff, implies_true]
  | cons field fields ih =>
      rw [missingInFields, Option.or_eq_none_iff, Option.or_eq_none_iff, ih, List.forall_mem_cons,
        missingKey?_eq_none_iff, missingInGroups_eq_none_iff, forall_itemsAt_iff]
      refine and_congr_left' ?_
      simp [fieldSchema, Schema.not_lacks_note, and_assoc]

theorem missingInSection_eq_none_iff {value : Value} {language : Language} {keys : List String} :
    missingInSection value language keys = none ↔
      ∀ lang, value.get? "lang" = some lang → ∀ found, lang.get? language.name = some found →
        ∀ key ∈ keys, found.get? key ≠ none := by
  simp only [missingInSection, Option.bind_eq_none_iff, Option.bind_eq_some_iff,
    missingKey?_eq_none_iff]
  exact ⟨fun h lang hlang found hfound => h found ⟨lang, hlang, hfound⟩,
    fun h found ⟨lang, hlang, hfound⟩ => h lang hlang found hfound⟩

/-- No key is found missing exactly if the value lacks nothing. -/
theorem firstMissing_eq_none_iff {value : Value} :
    firstMissing value = none ↔ ¬ specSchema.Lacks value := by
  unfold firstMissing
  rw [Option.or_eq_none_iff, Option.or_eq_none_iff, Option.or_eq_none_iff,
    missingKey?_eq_none_iff, missingInSection_eq_none_iff, missingInSection_eq_none_iff,
    missingInFields_eq_none_iff, forall_itemsAt_iff]
  simp only [specSchema, sectionsSchema, phpSchema, tsSchema, Language.name,
    Schema.not_lacks_record_cons, Schema.not_lacks_record_nil, Schema.not_lacks_text,
    Schema.Entry.key, Schema.Entry.schema, Schema.Entry.isRequired, List.forall_mem_cons,
    List.not_mem_nil, false_imp_iff, forall_const, implies_true, and_true, true_and,
    not_false_eq_true, Bool.false_eq_true]
  constructor
  · rintro ⟨⟨⟨⟨houtDir, hlang, hfields⟩, hphp⟩, hts⟩, hitems⟩
    exact ⟨houtDir, hlang, fun lang hfound => ⟨hphp lang hfound, hts lang hfound⟩, hfields, hitems⟩
  · rintro ⟨houtDir, hlang, hsections, hfields, hitems⟩
    exact ⟨⟨⟨⟨houtDir, hlang, hfields⟩, fun lang hfound => (hsections lang hfound).1⟩,
      fun lang hfound => (hsections lang hfound).2⟩, hitems⟩

end Missing

end Spec

end ClassForge
