import ClassForge.Proofs.Json.LastMembers
import ClassForge.Proofs.Json.Written

/-!
# Values with Keys Removed

A value from which members have been taken away, each of them named by the keys that
lead to it from the top. Removing a key from an object inside an object is removing it
from what the outer key leads to, so below a key the question is asked again with that
key in front.

## Main definitions

* `Data.without`: A value without the members at some paths.

## Theorems

* `get?_membersWithout`: What is found in an object from which keys have been removed.
* `without_nothing`: If no path is removed, nothing changes.
* `Data.Readable.without`: What is left of a value can still be read.
-/

namespace ClassForge

namespace Json

mutual

/-- A value without the members whose path of keys is removed. -/
def Data.without (removed : List String → Bool) : Value → Value
  | .object members => .object (Data.membersWithout removed members)
  | .null => .null
  | .bool value => .bool value
  | .number literal => .number literal
  | .string text => .string text
  | .array items => .array items

/-- The members that are left, each without what is removed below its key. -/
def Data.membersWithout (removed : List String → Bool) :
    List (Member String) → List (Member String)
  | [] => []
  | .member key value :: members =>
    if removed [key] then Data.membersWithout removed members
    else
      .member key (value.without fun path => removed (key :: path))
        :: Data.membersWithout removed members

end

section Looking

variable (removed : List String → Bool)

/-- What is found among the members that are left. -/
theorem get?_membersWithout (members : List (Member String)) (key : String) :
    (Data.object (Data.membersWithout removed members)).get? key
      = if removed [key] then none
        else ((Data.object members).get? key).map
          (Data.without fun path => removed (key :: path)) := by
  induction members with
  | nil =>
      rw [Data.membersWithout]
      split <;> rfl
  | cons member members ih =>
      rcases member with ⟨own, value⟩
      rw [Data.membersWithout]
      by_cases hkey : own = key
      · subst hkey
        rw [get?_object_cons]
        -- Removing goes by key, so all members with the key are removed or none.
        by_cases hremoved : removed [own] = true
        · rw [if_pos hremoved, ih, if_pos hremoved, if_pos hremoved]
        · rw [if_neg hremoved, if_neg hremoved, get?_object_cons, ih, if_neg hremoved,
            Option.map_or]
          simp only [Member.key, Member.value, if_true, Option.map_some]
      · -- A member with another key is not found, whether it is left or not.
        have hown : ∀ value : Value, (Member.member own value).key ≠ key := fun _ => hkey
        rw [get?_object_cons_of_ne (hown value)]
        split
        · exact ih
        · rw [get?_object_cons_of_ne (hown _), ih]

/-- No member gets another key, and none is added. -/
theorem keys_membersWithout_sublist (members : List (Member String)) :
    ((Data.membersWithout removed members).map Member.key).Sublist
      (members.map Member.key) := by
  induction members with
  | nil =>
      unfold Data.membersWithout
      exact List.Sublist.refl _
  | cons member members ih =>
      rcases member with ⟨key, value⟩
      rw [Data.membersWithout]
      split
      · exact ih.cons key
      · exact ih.cons_cons key

end Looking

mutual

/-- If no path is removed, nothing changes. -/
theorem without_nothing : (value : Value) → value.without (fun _ => false) = value
  | .object members => by rw [Data.without, membersWithout_nothing members]
  | .null => by rw [Data.without]
  | .bool _ => by rw [Data.without]
  | .number _ => by rw [Data.without]
  | .string _ => by rw [Data.without]
  | .array _ => by rw [Data.without]

theorem membersWithout_nothing : (members : List (Member String)) →
    Data.membersWithout (fun _ => false) members = members
  | [] => by rw [Data.membersWithout]
  | .member key value :: members => by
    rw [Data.membersWithout, if_neg Bool.false_ne_true, without_nothing value,
      membersWithout_nothing members]

end

mutual

/-- What is left of a value can still be read. -/
theorem Data.Readable.without : (value : Value) → {depth : Nat} → value.Readable depth →
    (removed : List String → Bool) → (value.without removed).Readable depth
  | .object members, _, .object h, removed => by
    rw [Data.without]
    exact .object (readable_membersWithout members h removed)
  | .null, _, h, _ => h
  | .bool _, _, h, _ => h
  | .number _, _, h, _ => h
  | .string _, _, h, _ => h
  | .array _, _, h, _ => h

theorem readable_membersWithout : (members : List (Member String)) → {depth : Nat} →
    (∀ member ∈ members, member.value.Readable depth) → (removed : List String → Bool) →
    ∀ member ∈ Data.membersWithout removed members, member.value.Readable depth
  | [], _, _, _ => by
    rw [Data.membersWithout]
    exact List.forall_mem_nil _
  | .member key value :: members, _, h, removed => by
    rcases List.forall_mem_cons.mp h with ⟨hvalue, hmembers⟩
    rw [Data.membersWithout]
    split
    · exact readable_membersWithout members hmembers removed
    · exact List.forall_mem_cons.mpr ⟨Data.Readable.without value hvalue _,
        readable_membersWithout members hmembers removed⟩

end

end Json

end ClassForge
