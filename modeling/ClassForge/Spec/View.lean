import ClassForge.Spec.Basic
import ClassForge.Text.UpperCase

/-!
# Views of Fields

A class is read from and written to keyed data in several ways: once with all
its fields under their own names, and once for every group, with the fields of
the group under the keys their tags give them.

Groups are collected in one pass over the fields and their tags. A view for
writing lists one entry for every tag; a view for reading has one slot for
every field of the class, empty if the field does not belong to the group, so
that the slots line up with the arguments of the constructor.

## Main definitions

* `GroupView`: A group with its members.
* `groupViews`: The groups of some fields.
* `SerializeView`, `DeserializeView`: The views for writing and for reading.
* `serializeViews`, `deserializeViews`: All views of some fields.
-/

namespace ClassForge

namespace Spec

/-- A field as a member of a group: its position in the class, and the tag that
    makes it a member. -/
structure GroupMember where
  /-- The position of the field. -/
  position : Nat
  /-- The field. -/
  field : Field
  /-- The tag. -/
  tag : GroupTag
  deriving DecidableEq

/-- A group with its members. -/
structure GroupView where
  /-- The name of the group. -/
  name : String
  /-- How many fields the class has. -/
  arity : Nat
  /-- The members in order. -/
  members : List GroupMember
  deriving DecidableEq

/-- The groups with one more member. It goes to the group that its tag names,
    which is opened behind the others if it is new. -/
def addMember (arity : Nat) (member : GroupMember) : List GroupView → List GroupView
  | [] => [⟨member.tag.name, arity, [member]⟩]
  | view :: views =>
    if view.name = member.tag.name then
      { view with members := view.members ++ [member] } :: views
    else view :: addMember arity member views

/-- The groups with the memberships of one field. -/
def addField (arity position : Nat) (field : Field) (views : List GroupView) :
    List GroupView :=
  field.groups.foldl (fun views tag => addMember arity ⟨position, field, tag⟩ views) views

/-- The groups with the memberships of some fields, numbered from `position`. -/
def addFields (arity : Nat) : (position : Nat) → List Field → List GroupView → List GroupView
  | _, [], views => views
  | position, field :: fields, views =>
    addFields arity (position + 1) fields (addField arity position field views)

/-- The groups of some fields, in the order in which they first appear. -/
def groupViews (fields : List Field) : List GroupView := addFields fields.length 0 fields []

/-- A field under a key. -/
structure FieldEntry where
  /-- The field. -/
  field : Field
  /-- The key. -/
  key : String
  deriving DecidableEq

/-- A field under its own name. -/
def FieldEntry.own (field : Field) : FieldEntry := ⟨field, field.name⟩

/-- A member under the key its tag gives it. -/
def GroupMember.entry (member : GroupMember) : FieldEntry := ⟨member.field, member.tag.member⟩

/-- The name of the method of a view: a fixed name for the view of all fields,
    else a start word and the name of the group with a capital. -/
def methodName (group : Option String) (allName startWord : String) : String :=
  match group with
  | none => allName
  | some name => startWord ++ Text.upperFirst name

/-- The entries that are written, in order. -/
structure SerializeView where
  /-- The group, or none for all fields. -/
  group : Option String
  /-- The entries. -/
  entries : List FieldEntry
  deriving DecidableEq

namespace SerializeView

/-- All fields under their own names. -/
def all (fields : List Field) : SerializeView := ⟨none, fields.map .own⟩

/-- The members of a group. -/
def grouped (view : GroupView) : SerializeView :=
  ⟨some view.name, view.members.map GroupMember.entry⟩

end SerializeView

/-- The slots that are read, one for every field. -/
structure DeserializeView where
  /-- The group, or none for all fields. -/
  group : Option String
  /-- The slots; a field that is not read leaves its slot empty. -/
  slots : List (Option FieldEntry)
  deriving DecidableEq

namespace DeserializeView

/-- All fields under their own names. -/
def all (fields : List Field) : DeserializeView :=
  ⟨none, fields.map fun field => some (.own field)⟩

/-- The members of a group at their positions. Of several members at the same
    position the last one counts. -/
def grouped (view : GroupView) : DeserializeView :=
  ⟨some view.name,
    view.members.foldl (fun slots member => slots.set member.position (some member.entry))
      (List.replicate view.arity none)⟩

/-- How many slots there are. -/
def arity (view : DeserializeView) : Nat := view.slots.length

end DeserializeView

/-- All views for writing: all fields, then every group. -/
def serializeViews (fields : List Field) : List SerializeView :=
  .all fields :: (groupViews fields).map .grouped

/-- All views for reading: all fields, then every group. -/
def deserializeViews (fields : List Field) : List DeserializeView :=
  .all fields :: (groupViews fields).map .grouped

end Spec

end ClassForge
