import ClassForge.Proofs.Spec.Groups

/-!
# Groups as Collections of Tags

That the groups of some fields are all the tags of the fields, sorted into
groups: none is lost, none is doubled, and none is out of order.

What the groups are has been said already, with a recursion over the fields for
the tags they carry. Here it is said with nothing but positions: the tags in the
order of fields and of the tags of a field. Everything about order is read off
that list. That nothing is lost is seen in the loop itself, since each step
puts one more member somewhere and leaves those that are there.

## Main definitions

* `taggings`: Every tag with its field and the position of the field.

## Theorems

* `memberships_eq_taggings`: The two ways to list memberships.
* `pairwise_position_memberships`: Memberships are in the order of positions.
* `perm_addMember`, `perm_groupViews`: One step of collecting, and all of them.
* `groups_collect_tags`: The groups of some fields.
-/

namespace ClassForge

namespace Spec

/-- Every tag of some fields with its field and the position of the field, in the
    order of fields and of the tags of a field. -/
def taggings (fields : List Field) : List GroupMember :=
  fields.zipIdx.flatMap fun (field, position) =>
    field.groups.map fun tag => ⟨position, field, tag⟩

section Order

theorem memberships_eq_zipIdx (position : Nat) (fields : List Field) :
    memberships position fields
      = (fields.zipIdx position).flatMap fun (field, position) =>
        field.groups.map fun tag => ⟨position, field, tag⟩ := by
  induction fields generalizing position with
  | nil => rfl
  | cons field fields ih => rw [memberships, List.zipIdx_cons, List.flatMap_cons, ih]

/-- The two ways to list the memberships of some fields. -/
theorem memberships_eq_taggings (fields : List Field) :
    memberships 0 fields = taggings fields := memberships_eq_zipIdx 0 fields

theorem le_position_of_mem {start : Nat} {fields : List Field} {member : GroupMember}
    (hmember : member ∈ memberships start fields) : start ≤ member.position := by
  rw [memberships_eq_zipIdx, List.mem_flatMap] at hmember
  rcases hmember with ⟨⟨field, position⟩, hfield, htag⟩
  rcases List.mem_map.mp htag with ⟨tag, _, rfl⟩
  exact List.le_snd_of_mem_zipIdx hfield

/-- Memberships are in the order of positions. -/
theorem pairwise_position_memberships (start : Nat) (fields : List Field) :
    (memberships start fields).Pairwise fun member later => member.position ≤ later.position := by
  induction fields generalizing start with
  | nil => exact List.Pairwise.nil
  | cons field fields ih =>
      rw [memberships, List.pairwise_append]
      refine ⟨?_, ih (start + 1), ?_⟩
      · -- The tags of one field share its position.
        rw [List.pairwise_map]
        exact List.pairwise_of_forall fun _ _ => Nat.le_refl start
      · intro member hmember later hlater
        rcases List.mem_map.mp hmember with ⟨tag, _, rfl⟩
        have hbehind := le_position_of_mem hlater
        change start ≤ later.position
        omega

end Order

section Completeness

variable {arity : Nat}

/-- One step of collecting puts one more member among those that are there. -/
theorem perm_addMember (member : GroupMember) (views : List GroupView) :
    ((addMember arity member views).flatMap GroupView.members).Perm
      (views.flatMap GroupView.members ++ [member]) := by
  induction views with
  | nil => exact List.Perm.refl _
  | cons view views ih =>
      rw [addMember]
      by_cases hname : view.name = member.tag.name
      · rw [if_pos hname, List.flatMap_cons, List.flatMap_cons, List.append_assoc,
          List.append_assoc]
        exact List.Perm.append_left _ List.perm_append_comm
      · rw [if_neg hname, List.flatMap_cons, List.flatMap_cons, List.append_assoc]
        exact List.Perm.append_left _ ih

theorem perm_foldl_addMember (members : List GroupMember) (views : List GroupView) :
    ((members.foldl (fun views member => addMember arity member views) views).flatMap
      GroupView.members).Perm (views.flatMap GroupView.members ++ members) := by
  induction members generalizing views with
  | nil => rw [List.foldl_nil, List.append_nil]
  | cons member members ih =>
      rw [List.foldl_cons, List.append_cons]
      exact (ih _).trans (List.Perm.append_right _ (perm_addMember member views))

/-- The members of all groups are the memberships of the fields. -/
theorem perm_groupViews (fields : List Field) :
    ((groupViews fields).flatMap GroupView.members).Perm (taggings fields) := by
  rw [groupViews, addFields_eq_foldl, ← memberships_eq_taggings]
  exact perm_foldl_addMember _ _

theorem length_taggings (fields : List Field) :
    (taggings fields).length = (fields.flatMap Field.groups).length := by
  have hnames := congrArg List.length (map_name_memberships 0 fields)
  rw [List.length_map, List.length_map, memberships_eq_taggings] at hnames
  exact hnames

end Completeness

/-- The groups of some fields: for every name that a tag gives, in the order in
    which they first appear, the tags of that name in the order of fields and of
    the tags of a field. So no name appears twice, no group is empty, positions
    never go back within a group, and all groups together hold every tag once. -/
theorem groups_collect_tags (fields : List Field) :
    groupViews fields
        = ((fields.flatMap Field.groups).map GroupTag.name).eraseDups.map (fun name =>
          ⟨name, fields.length, (taggings fields).filter fun member => member.tag.name = name⟩) ∧
      ((groupViews fields).map GroupView.name).Nodup ∧
      (∀ view ∈ groupViews fields, view.members ≠ [] ∧
        view.members.Pairwise fun member later => member.position ≤ later.position) ∧
      ((groupViews fields).flatMap GroupView.members).Perm (taggings fields) ∧
      ((groupViews fields).flatMap GroupView.members).length
        = (fields.flatMap Field.groups).length := by
  have hviews : groupViews fields
      = (groupNames fields).map (fun name =>
        ⟨name, fields.length, (taggings fields).filter fun member => member.tag.name = name⟩) := by
    rw [groupViews_eq, memberships_eq_taggings]
    rfl
  refine ⟨hviews, ?_, fun view hview => ?_, perm_groupViews fields, ?_⟩
  · rw [hviews, List.map_map]
    change ((groupNames fields).map id).Nodup
    rw [List.map_id]
    exact nodup_eraseDups _
  · rw [hviews] at hview
    rcases List.mem_map.mp hview with ⟨name, hname, rfl⟩
    constructor
    · -- A name is there because some tag gives it.
      rw [groupNames, List.mem_eraseDups, ← map_name_memberships 0,
        memberships_eq_taggings] at hname
      rcases List.mem_map.mp hname with ⟨member, hmember, heq⟩
      exact List.ne_nil_of_mem (List.mem_filter.mpr ⟨hmember, decide_eq_true heq⟩)
    · rw [← memberships_eq_taggings]
      exact (pairwise_position_memberships 0 fields).filter _
  · rw [← length_taggings, (perm_groupViews fields).length_eq]

/-- A group that a field is tagged with twice, and another in between. -/
theorem groups_collect_interleaved_tags :
    let first : Field := ⟨"id", "string", none, [⟨"row", "a"⟩, ⟨"api", "b"⟩, ⟨"row", "c"⟩]⟩
    let last : Field := ⟨"at", "datetime", none, [⟨"api", "d"⟩]⟩
    let view : GroupView :=
      ⟨"row", 3, [⟨0, first, ⟨"row", "a"⟩⟩, ⟨0, first, ⟨"row", "c"⟩⟩]⟩
    view ∈ groupViews [first, ⟨"x", "any", none, []⟩, last] ∧ view.members ≠ [] ∧
      view.members.Pairwise fun member later => member.position ≤ later.position := by
  intro first last view
  have hview : view ∈ groupViews [first, ⟨"x", "any", none, []⟩, last] := by decide
  exact ⟨hview, (groups_collect_tags _).2.2.1 view hview⟩

end Spec

end ClassForge
