import ClassForge.Spec.View

/-!
# Groups and Slots

Groups are collected by a loop that carries the groups found so far and finds
its place among them for every tag. What it collects can be said without it:
the names that tags give, each where it first appears, and for each name the
memberships of that name, in order. `groupViews_eq` is that reading, and it is
proved for the loop at any point, with the memberships behind it collected and
those ahead of it still to come.

The slots of a group are also filled by a loop, which writes into a row of empty
slots and may write to the same slot several times. `slots_grouped` says what
is left in the end: every field has the key of its last tag of that name, if it
has any. The loop goes through the fields in order, so behind it the row is
finished and ahead of it empty.

## Main definitions

* `memberships`: One membership for every tag of some fields.
* `groupNames`: The names of groups in the order in which they first appear.
* `collected`: Memberships, collected by name.
* `keyIn`: The key of a field in a group, or outside of all groups.
* `entriesIn`: The entries that a field is written to in a group, or outside of
  all groups.

## Theorems

* `addMember_collected`: One step of collecting.
* `groupViews_eq`: The groups of some fields.
* `slots_grouped`: The slots of a group.
* `deserializeViews_eq`: All views for reading.
* `serializeViews_eq`: All views for writing.
-/

namespace ClassForge

namespace Spec

/-- One membership for every tag of some fields, numbered from `position`. -/
def memberships : (position : Nat) → List Field → List GroupMember
  | _, [] => []
  | position, field :: fields =>
    field.groups.map (fun tag => ⟨position, field, tag⟩) ++ memberships (position + 1) fields

/-- The names of groups in the order in which they first appear. -/
def groupNames (fields : List Field) : List String :=
  ((fields.flatMap Field.groups).map GroupTag.name).eraseDups

/-- The members of the group with a name. -/
def named (name : String) (members : List GroupMember) : List GroupMember :=
  members.filter fun member => member.tag.name = name

/-- Members, collected by the names of their groups. -/
def collected (arity : Nat) (members : List GroupMember) : List GroupView :=
  (members.map fun member => member.tag.name).eraseDups.map fun name =>
    ⟨name, arity, named name members⟩

section Collecting

theorem nodup_eraseDups : (names : List String) → names.eraseDups.Nodup
  | [] => by
    rw [List.eraseDups_nil]
    exact List.nodup_nil
  | name :: names => by
    rw [List.eraseDups_cons, List.nodup_cons, List.mem_eraseDups, List.mem_filter]
    refine ⟨fun hmem => ?_, nodup_eraseDups _⟩
    simp only [beq_self_eq_true, Bool.not_true, Bool.false_eq_true, and_false] at hmem
termination_by names => names.length
decreasing_by
  rw [List.length_cons]
  exact Nat.lt_succ_of_le (List.length_filter_le _ _)

variable {arity : Nat} {member : GroupMember}

/-- A member of a new group opens it behind the others. -/
theorem addMember_of_not_mem {views : List GroupView}
    (hnew : ∀ view ∈ views, view.name ≠ member.tag.name) :
    addMember arity member views = views ++ [⟨member.tag.name, arity, [member]⟩] := by
  induction views with
  | nil => rfl
  | cons view views ih =>
      rw [addMember, if_neg (hnew view List.mem_cons_self),
        ih fun other hother => hnew other (List.mem_cons_of_mem view hother), List.cons_append]

/-- A member of a group that is there joins it, and no other. -/
theorem addMember_of_mem {names : List String} (hnodup : names.Nodup)
    (hmem : member.tag.name ∈ names) (members : String → List GroupMember) :
    addMember arity member (names.map fun name => ⟨name, arity, members name⟩)
      = names.map fun name => ⟨name, arity,
        if name = member.tag.name then members name ++ [member] else members name⟩ := by
  induction names with
  | nil => exact absurd hmem List.not_mem_nil
  | cons name names ih =>
      rw [List.nodup_cons] at hnodup
      rw [List.map_cons, List.map_cons, addMember]
      by_cases hname : name = member.tag.name
      · -- The group is found; by distinctness none behind it has the name.
        rw [if_pos hname, if_pos hname]
        congr 1
        refine List.map_congr_left fun other hother => ?_
        have hother : other ≠ member.tag.name := by
          intro heq
          rw [heq, ← hname] at hother
          exact hnodup.1 hother
        rw [if_neg hother]
      · rw [if_neg hname, if_neg hname, ih hnodup.2]
        exact (List.mem_cons.mp hmem).resolve_left fun heq => hname heq.symm

theorem named_append_singleton (name : String) (members : List GroupMember) :
    named name (members ++ [member])
      = if name = member.tag.name then named name members ++ [member] else named name members := by
  unfold named
  rw [List.filter_append]
  by_cases hname : member.tag.name = name
  · rw [if_pos hname.symm, List.filter_cons, if_pos (decide_eq_true hname), List.filter_nil]
  · rw [if_neg fun h => hname h.symm, List.filter_cons, if_neg (by rwa [decide_eq_true_eq]),
      List.filter_nil, List.append_nil]

/-- One step of collecting: the members so far are collected, and so they are
    with one more. -/
theorem addMember_collected (members : List GroupMember) :
    addMember arity member (collected arity members)
      = collected arity (members ++ [member]) := by
  -- Dropping later duplicates drops no name.
  have hnames : ∀ name, name ∈ (members.map fun member => member.tag.name).eraseDups
      ↔ name ∈ members.map fun member => member.tag.name := fun name => List.mem_eraseDups
  unfold collected
  rw [List.map_append, List.map_singleton, List.eraseDups_append, List.cons_removeAll,
    List.nil_removeAll]
  by_cases hmem : member.tag.name ∈ members.map fun member => member.tag.name
  · rw [if_neg (by rw [List.contains_iff_mem.mpr hmem]; exact Bool.noConfusion),
      List.eraseDups_nil, List.append_nil,
      addMember_of_mem (nodup_eraseDups _) ((hnames _).mpr hmem)]
    refine List.map_congr_left fun name _ => ?_
    rw [named_append_singleton]
  · have hnew : ∀ view ∈ (members.map fun member => member.tag.name).eraseDups.map
        fun name => (⟨name, arity, named name members⟩ : GroupView),
        view.name ≠ member.tag.name := by
      intro view hview heq
      obtain ⟨name, hname, rfl⟩ := List.mem_map.mp hview
      exact hmem (heq ▸ (hnames name).mp hname)
    -- A new group has no members yet, so the one it is opened with is its only one.
    have hnone : named member.tag.name members = [] := by
      refine List.filter_eq_nil_iff.mpr fun other hother heq => hmem ?_
      rw [← of_decide_eq_true heq]
      exact List.mem_map_of_mem hother
    have hcontains : (members.map fun member => member.tag.name).contains member.tag.name
        = false := by
      rw [Bool.eq_false_iff]
      exact fun h => hmem (List.contains_iff_mem.mp h)
    rw [if_pos hcontains, addMember_of_not_mem hnew, List.map_append]
    congr 1
    · refine List.map_congr_left fun name hname => ?_
      have hother : name ≠ member.tag.name := fun heq => hmem (heq ▸ (hnames name).mp hname)
      rw [named_append_singleton, if_neg hother]
    · rw [List.eraseDups_cons, List.filter_nil, List.eraseDups_nil, List.map_singleton,
        named_append_singleton, if_pos rfl, hnone, List.nil_append]

/-- Collecting some members after others that are already collected. -/
theorem foldl_addMember (members rest : List GroupMember) :
    rest.foldl (fun views member => addMember arity member views) (collected arity members)
      = collected arity (members ++ rest) := by
  induction rest generalizing members with
  | nil => rw [List.foldl_nil, List.append_nil]
  | cons member rest ih =>
      rw [List.foldl_cons, addMember_collected, ih, List.append_assoc, List.singleton_append]

theorem addFields_eq_foldl (position : Nat) (fields : List Field) (views : List GroupView) :
    addFields arity position fields views
      = (memberships position fields).foldl
        (fun views member => addMember arity member views) views := by
  induction fields generalizing position views with
  | nil => rfl
  | cons field fields ih =>
      rw [addFields, memberships, List.foldl_append, ih, addField, List.foldl_map]

theorem map_name_memberships (position : Nat) (fields : List Field) :
    ((memberships position fields).map fun member => member.tag.name)
      = (fields.flatMap Field.groups).map GroupTag.name := by
  induction fields generalizing position with
  | nil => rfl
  | cons field fields ih =>
      rw [memberships, List.map_append, ih, List.map_map, List.flatMap_cons, List.map_append]
      rfl

/-- The groups of some fields: for every name the memberships of that name. -/
theorem groupViews_eq (fields : List Field) :
    groupViews fields
      = (groupNames fields).map fun name =>
        ⟨name, fields.length, named name (memberships 0 fields)⟩ := by
  have hempty : collected fields.length [] = [] := rfl
  rw [groupViews, addFields_eq_foldl, ← hempty, foldl_addMember, List.nil_append, collected,
    map_name_memberships]
  rfl

/-- The members of a group, with those of the first field set apart. -/
theorem named_memberships_cons (name : String) (position : Nat) (field : Field)
    (fields : List Field) :
    named name (memberships position (field :: fields))
      = (field.groups.filter fun tag => tag.name = name).map (fun tag => ⟨position, field, tag⟩)
        ++ named name (memberships (position + 1) fields) := by
  unfold named
  rw [memberships, List.filter_append, List.filter_map]
  rfl

end Collecting

/-- The last tag of a field that names a group. -/
def lastTag (name : String) (field : Field) : Option GroupTag :=
  (field.groups.filter fun tag => tag.name = name).getLast?

/-- The key of a field in a group, or its own name outside of all groups. -/
def keyIn : Option String → Field → Option String
  | none, field => some field.name
  | some name, field => (lastTag name field).map GroupTag.member

/-- The slot of a field in a group, or outside of all groups. -/
def slotIn (group : Option String) (field : Field) : Option FieldEntry :=
  (keyIn group field).map fun key => ⟨field, key⟩

section Slots

/-- The row of slots with one more member written to its place. -/
def writeSlot (slots : List (Option FieldEntry)) (member : GroupMember) :
    List (Option FieldEntry) :=
  slots.set member.position (some member.entry)

/-- The memberships of one field all go to the same slot, where the last one
    stays. -/
theorem foldl_writeSlot_field (field : Field) (tags : List GroupTag)
    (before after : List (Option FieldEntry)) (slot : Option FieldEntry) :
    (tags.map fun tag => (⟨before.length, field, tag⟩ : GroupMember)).foldl writeSlot
        (before ++ slot :: after)
      = before ++ ((tags.getLast?.map fun tag => ⟨field, tag.member⟩).or slot) :: after := by
  induction tags generalizing slot with
  | nil => rfl
  | cons tag tags ih =>
      -- The slot is the one right behind those that are finished.
      have hwrite : writeSlot (before ++ slot :: after) ⟨before.length, field, tag⟩
          = before ++ some ⟨field, tag.member⟩ :: after := by
        rw [writeSlot, List.set_append_right _ _ (Nat.le_refl _), Nat.sub_self, List.set_cons_zero]
        rfl
      rw [List.map_cons, List.foldl_cons, hwrite, ih]
      cases tags with
      | nil => rfl
      | cons next tags =>
          rw [List.getLast?_cons_cons, List.getLast?_eq_some_getLast (List.cons_ne_nil _ _)]
          rfl

/-- Writing the members of a group, with the slots of earlier fields finished
    and those of later ones empty. -/
theorem foldl_writeSlot (name : String) (fields : List Field)
    (before : List (Option FieldEntry)) :
    (named name (memberships before.length fields)).foldl writeSlot
        (before ++ List.replicate fields.length none)
      = before ++ fields.map (slotIn (some name)) := by
  induction fields generalizing before with
  | nil => rfl
  | cons field fields ih =>
      have hslot : (((field.groups.filter fun tag => tag.name = name).getLast?.map
          fun tag => (⟨field, tag.member⟩ : FieldEntry)).or none) = slotIn (some name) field := by
        rw [Option.or_none, slotIn, keyIn, lastTag, Option.map_map]
        rfl
      -- With the slot of this field finished, the next field is the first.
      have hrest := ih (before ++ [slotIn (some name) field])
      rw [List.length_append, List.length_singleton] at hrest
      rw [named_memberships_cons, List.foldl_append, List.length_cons, List.replicate_succ,
        foldl_writeSlot_field, hslot, List.map_cons, List.append_cons before, hrest,
        List.append_assoc, List.singleton_append]

/-- The slots of a group: one for every field, with the key of its last tag of
    that name if it has any. -/
theorem slots_grouped (name : String) (fields : List Field) :
    (DeserializeView.grouped ⟨name, fields.length, named name (memberships 0 fields)⟩).slots
      = fields.map (slotIn (some name)) :=
  foldl_writeSlot name fields []

/-- All views for reading: outside of all groups, then in every group. -/
theorem deserializeViews_eq (fields : List Field) :
    deserializeViews fields
      = (none :: (groupNames fields).map some).map fun group =>
        ⟨group, fields.map (slotIn group)⟩ := by
  rw [deserializeViews, groupViews_eq, List.map_map, List.map_cons, List.map_map]
  congr 1
  refine List.map_congr_left fun name _ => ?_
  -- A group is read by the slots that its members leave.
  have hslots := slots_grouped name fields
  rw [Function.comp_apply, Function.comp_apply, ← hslots]
  rfl

end Slots

/-- The entries that a field is written to in a group, one for every tag that
    names the group, or the one under its own name outside of all groups. -/
def entriesIn : Option String → Field → List FieldEntry
  | none, field => [.own field]
  | some name, field =>
    (field.groups.filter fun tag => tag.name = name).map fun tag => ⟨field, tag.member⟩

section Entries

/-- A field is read from the last entry that it is written to. -/
theorem slotIn_eq_getLast? (group : Option String) (field : Field) :
    slotIn group field = (entriesIn group field).getLast? := by
  cases group with
  | none => rfl
  | some name =>
      rw [slotIn, keyIn, lastTag, entriesIn, List.getLast?_map, Option.map_map]
      rfl

/-- The entries of the members of a group, field by field. -/
theorem map_entry_named (name : String) (position : Nat) (fields : List Field) :
    (named name (memberships position fields)).map GroupMember.entry
      = fields.flatMap (entriesIn (some name)) := by
  induction fields generalizing position with
  | nil => rfl
  | cons field fields ih =>
      rw [named_memberships_cons, List.map_append, ih, List.map_map, List.flatMap_cons]
      rfl

/-- All views for writing: outside of all groups, then in every group. -/
theorem serializeViews_eq (fields : List Field) :
    serializeViews fields
      = (none :: (groupNames fields).map some).map fun group =>
        ⟨group, fields.flatMap (entriesIn group)⟩ := by
  rw [serializeViews, groupViews_eq, List.map_map, List.map_cons, List.map_map]
  congr 1
  · -- Outside of all groups every field has exactly one entry.
    rw [SerializeView.all, List.map_eq_flatMap]
    rfl
  · refine List.map_congr_left fun name _ => ?_
    rw [Function.comp_apply, Function.comp_apply, SerializeView.grouped, map_entry_named]

end Entries

end Spec

end ClassForge
