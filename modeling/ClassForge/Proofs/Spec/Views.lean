import ClassForge.Proofs.Spec.Collection
import ClassForge.Proofs.Spec.RoundTrip

/-!
# The Two Views of a Group

A group is written through a list of entries, to which every member is appended,
and read through a row of slots, into which every member is written at its
position. One keeps all members and the other only the last at each position, so
that the two are about the same fields has to be proved: it rests on the positions
that members are given when groups are collected.

Writing to a slot that is not there would go unnoticed, since a row of slots is
left alone by a write behind its end. No write does so. `written_of_mem` looks at
the row in the middle of the loop, with the members before one already written, and
finds the slot of that member there.

## Main definitions

* `Agree`: What the views of a group have to do with each other and with the fields.

## Theorems

* `mem_taggings`: The members of all groups.
* `length_slots`, `getElem?_slots_concat`: The row of slots while it is filled.
* `written_of_mem`: No member is left out.
* `group_views_agree`: The two views of a group agree.
-/

namespace ClassForge

namespace Spec

/-- The views of a group for writing and for reading agree with the fields and with
    each other. -/
structure Agree (fields : List Field) (view : GroupView) (writer : SerializeView)
    (reader : DeserializeView) : Prop where
  /-- There is one slot for every field. -/
  length_slots : reader.slots.length = fields.length
  /-- A slot is empty exactly if no tag of its field names the group. -/
  empty_iff : ∀ (position : Nat) field, fields[position]? = some field →
    (reader.slots[position]? = some none ↔ ∀ tag ∈ field.groups, tag.name ≠ view.name)
  /-- A slot that is not empty has its field under the key of the last tag that names
      the group. -/
  filled : ∀ (position : Nat) field tag, fields[position]? = some field →
    (field.groups.filter fun tag => tag.name = view.name).getLast? = some tag →
    reader.slots[position]? = some (some ⟨field, tag.member⟩)
  /-- When a member has its turn, its slot is there and is written. -/
  written : ∀ before member after, view.members = before ++ member :: after →
    member.position < (DeserializeView.grouped { view with members := before }).arity ∧
      (DeserializeView.grouped { view with members := before ++ [member] }).slots[member.position]?
        = some (some ⟨member.field, member.tag.member⟩)
  /-- There is one entry for every tag that names the group, in the order of fields and
      of the tags of a field, under the key of the tag. -/
  entries_eq : writer.entries = fields.flatMap fun field =>
    (field.groups.filter fun tag => tag.name = view.name).map fun tag => ⟨field, tag.member⟩
  /-- An entry is for the field at the position of its member. -/
  origins : List.Forall₂ (fun position entry => fields[position]? = some entry.field)
    (view.members.map GroupMember.position) writer.entries
  /-- The positions with an entry are those with a slot that is not empty. -/
  positions : ∀ position, position ∈ view.members.map GroupMember.position ↔
    ∃ entry, reader.slots[position]? = some (some entry)
  /-- The fields with an entry are those with a slot that is not empty. -/
  fields_iff : ∀ field, (∃ entry ∈ writer.entries, entry.field = field) ↔
    ∃ entry, some entry ∈ reader.slots ∧ entry.field = field
  /-- What is in a slot is among the entries. -/
  slot_mem : ∀ entry, some entry ∈ reader.slots → entry ∈ writer.entries

section Members

variable {fields : List Field}

/-- The members of all groups are the tags of the fields, at their positions. -/
theorem mem_taggings {member : GroupMember} :
    member ∈ taggings fields ↔
      fields[member.position]? = some member.field ∧ member.tag ∈ member.field.groups := by
  rcases member with ⟨position, field, tag⟩
  simp only [taggings, List.mem_flatMap, List.mem_map, Prod.exists, List.mk_mem_zipIdx_iff_getElem?,
    GroupMember.mk.injEq]
  constructor
  · rintro ⟨_, _, hfield, _, htag, rfl, rfl, rfl⟩
    exact ⟨hfield, htag⟩
  · rintro ⟨hfield, htag⟩
    exact ⟨field, position, hfield, tag, htag, rfl, rfl, rfl⟩

theorem mem_named_memberships {name : String} {member : GroupMember} :
    member ∈ named name (memberships 0 fields) ↔
      fields[member.position]? = some member.field ∧ member.tag ∈ member.field.groups ∧
        member.tag.name = name := by
  rw [named, List.mem_filter, memberships_eq_taggings, mem_taggings, decide_eq_true_eq, and_assoc]

/-- The positions of the members of a group are those of the fields that belong to
    it. -/
theorem mem_positions_iff {name : String} {position : Nat} :
    position ∈ (named name (memberships 0 fields)).map GroupMember.position ↔
      ∃ field, fields[position]? = some field ∧ IsMember (some name) field := by
  simp only [List.mem_map, mem_named_memberships]
  constructor
  · rintro ⟨member, ⟨hfield, htag, hname⟩, rfl⟩
    exact ⟨member.field, hfield, member.tag, htag, hname⟩
  · rintro ⟨field, hfield, tag, htag, hname⟩
    exact ⟨⟨position, field, tag⟩, ⟨hfield, htag, hname⟩, rfl⟩

end Members

section Row

variable {name : String} {arity : Nat}

-- No write changes how many slots there are.
theorem length_slots (members : List GroupMember) :
    (DeserializeView.grouped ⟨name, arity, members⟩).slots.length = arity := by
  have hrun : ∀ slots : List (Option FieldEntry),
      (members.foldl writeSlot slots).length = slots.length := by
    induction members with
    | nil => exact fun _ => rfl
    | cons member members ih =>
        intro slots
        rw [List.foldl_cons, ih, writeSlot, List.length_set]
  exact (hrun _).trans List.length_replicate

/-- A member whose slot is there is in it right after its turn. -/
theorem getElem?_slots_concat (before : List GroupMember) {member : GroupMember}
    (hbound : member.position < arity) :
    (DeserializeView.grouped ⟨name, arity, before ++ [member]⟩).slots[member.position]?
      = some (some member.entry) := by
  have hlast : (DeserializeView.grouped ⟨name, arity, before ++ [member]⟩).slots
      = writeSlot (DeserializeView.grouped ⟨name, arity, before⟩).slots member :=
    List.foldl_concat ..
  rw [hlast, writeSlot, List.getElem?_set_self]
  rwa [length_slots]

/-- No member is left out: every one has a position in the row, and its slot is
    written. -/
theorem written_of_mem {fields : List Field} {before after : List GroupMember}
    {member : GroupMember}
    (hmembers : named name (memberships 0 fields) = before ++ member :: after) :
    member.position < (DeserializeView.grouped ⟨name, fields.length, before⟩).arity ∧
      (DeserializeView.grouped ⟨name, fields.length, before ++ [member]⟩).slots[member.position]?
        = some (some ⟨member.field, member.tag.member⟩) := by
  have hmem : member ∈ named name (memberships 0 fields) := by
    rw [hmembers]
    exact List.mem_append_right _ List.mem_cons_self
  have hfield := (mem_named_memberships.mp hmem).1
  have hbound : member.position < fields.length := (List.getElem?_eq_some_iff.mp hfield).1
  refine ⟨?_, getElem?_slots_concat before hbound⟩
  rwa [DeserializeView.arity, length_slots]

end Row

section Fields

variable {fields : List Field} {name : String}

/-- A field has no slot in a group exactly if none of its tags names the group. -/
theorem slotIn_eq_none_iff {field : Field} :
    slotIn (some name) field = none ↔ ∀ tag ∈ field.groups, tag.name ≠ name := by
  rw [← not_iff_not, ← Ne, Option.ne_none_iff_exists', exists_slotIn_iff, IsMember]
  simp only [not_forall, not_not, exists_prop]

/-- The fields that are written in a group are those that belong to it. -/
theorem exists_entry_iff {field : Field} :
    (∃ entry ∈ fields.flatMap (entriesIn (some name)), entry.field = field) ↔
      field ∈ fields ∧ IsMember (some name) field := by
  simp only [List.mem_flatMap, entriesIn, List.mem_map, List.mem_filter, decide_eq_true_eq]
  constructor
  · rintro ⟨_, ⟨other, hfield, tag, ⟨htag, hname⟩, rfl⟩, rfl⟩
    exact ⟨hfield, tag, htag, hname⟩
  · rintro ⟨hfield, tag, htag, hname⟩
    exact ⟨_, ⟨field, hfield, tag, ⟨htag, hname⟩, rfl⟩, rfl⟩

/-- The fields that are read in a group are those that belong to it. -/
theorem exists_slot_iff {field : Field} :
    (∃ entry, some entry ∈ fields.map (slotIn (some name)) ∧ entry.field = field) ↔
      field ∈ fields ∧ IsMember (some name) field := by
  rw [← exists_slotIn_iff]
  constructor
  · rintro ⟨entry, hentry, rfl⟩
    rcases List.mem_map.mp hentry with ⟨other, hfield, hslot⟩
    rw [field_of_slotIn hslot]
    exact ⟨hfield, entry, hslot⟩
  · rintro ⟨hfield, entry, hslot⟩
    exact ⟨entry, List.mem_map.mpr ⟨field, hfield, hslot⟩, field_of_slotIn hslot⟩

end Fields

/-- The views of a group for writing and for reading agree. There is one slot for
    every field, empty exactly if the field does not belong to the group, and else
    with the key of its last tag of the group. No member is left out when slots are
    filled. There is one entry for every tag of the group. So the same fields have
    an entry and a slot that is not empty, and what is in a slot is among the
    entries. -/
theorem group_views_agree (fields : List Field) (view : GroupView)
    (hview : view ∈ groupViews fields) : Agree fields view (.grouped view) (.grouped view) := by
  rw [groupViews_eq] at hview
  rcases List.mem_map.mp hview with ⟨name, _, rfl⟩
  have hentries : (SerializeView.grouped
      ⟨name, fields.length, named name (memberships 0 fields)⟩).entries
        = fields.flatMap (entriesIn (some name)) := map_entry_named name 0 fields
  have hslots := slots_grouped name fields
  -- The slot of a field is the one at its position.
  have hslot : ∀ (position : Nat) field, fields[position]? = some field →
      (fields.map (slotIn (some name)))[position]? = some (slotIn (some name) field) := by
    intro position field hfield
    rw [List.getElem?_map, hfield, Option.map_some]
  constructor
  · exact length_slots _
  · intro position field hfield
    rw [hslots, hslot position field hfield, Option.some.injEq, slotIn_eq_none_iff]
  · intro position field tag hfield htag
    rw [hslots, hslot position field hfield, slotIn, keyIn, lastTag, htag]
    rfl
  · exact fun before member after hmembers => written_of_mem hmembers
  · exact hentries
  · rw [SerializeView.grouped, List.forall₂_map_left_iff, List.forall₂_map_right_iff,
      List.forall₂_same]
    exact fun member hmember => (mem_named_memberships.mp hmember).1
  · intro position
    rw [mem_positions_iff, hslots]
    simp only [List.getElem?_map, Option.map_eq_some_iff, ← exists_slotIn_iff]
    constructor
    · rintro ⟨field, hfield, entry, hentry⟩
      exact ⟨entry, field, hfield, hentry⟩
    · rintro ⟨entry, field, hfield, hentry⟩
      exact ⟨field, hfield, entry, hentry⟩
  · intro field
    rw [hentries, hslots, exists_entry_iff, exists_slot_iff]
  · intro entry hentry
    rw [hslots] at hentry
    rcases List.mem_map.mp hentry with ⟨field, hfield, hslot⟩
    rw [hentries]
    exact slotIn_mem hfield hslot

/-- A group with a field that has two of its tags, one that has none and one that has
    a tag of another group in between. -/
theorem group_views_agree_repeated_tags :
    let id : Field := ⟨"id", "integer", none, [⟨"row", "key"⟩, ⟨"row", "id"⟩]⟩
    let moment : Field := ⟨"at", "datetime", none, [⟨"row", "at"⟩, ⟨"api", "on"⟩, ⟨"row", "since"⟩]⟩
    let fields := [id, .plain "note" "string", moment]
    let view : GroupView :=
      ⟨"row", 3, [⟨0, id, ⟨"row", "key"⟩⟩, ⟨0, id, ⟨"row", "id"⟩⟩, ⟨2, moment, ⟨"row", "at"⟩⟩,
        ⟨2, moment, ⟨"row", "since"⟩⟩]⟩
    view ∈ groupViews fields ∧ Agree fields view (.grouped view) (.grouped view) ∧
      (DeserializeView.grouped view).slots = [some ⟨id, "id"⟩, none, some ⟨moment, "since"⟩] := by
  intro id moment fields view
  have hview : view ∈ groupViews fields := by decide
  exact ⟨hview, group_views_agree fields view hview, by decide⟩

end Spec

end ClassForge
