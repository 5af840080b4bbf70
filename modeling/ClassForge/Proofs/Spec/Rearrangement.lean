import ClassForge.Proofs.Json.LastMembers
import ClassForge.Proofs.Json.Written
import ClassForge.Proofs.Spec.Acceptance
import Mathlib.Data.List.Find

/-!
# Rearranged Specs

What may be changed in a value without changing the spec that is read from it, or
the way in which it is refused: the order of members, members under keys that nobody
asks for, and members that a later one with the same key replaces.

Which keys matter depends on where an object stands. A `Place` is what a schema says
about it, if it says anything; where it says nothing, every key counts. A record may
also be given as an array of its parts in order, and then the place of an item is that
of the part.

Changes are single edits, repeated. None of them can be followed through the reader
one by one, because an edit deep inside a value is seen only through look-ups from
above. So edits are first shown to make values `Alike`, which is said with look-ups
alone, and then every step of the reader is shown not to tell alike values apart.

## Main definitions

* `Place`: What a schema says about a value.
* `Rearranged`: One value can be edited into the other.
* `Alike`: Two values give the same to every look-up that matters.

## Theorems

* `Rearranged.alike`: Edits make values alike.
* `alike_lastOnly`: Leaving out replaced members makes values alike.
* `firstMissing_eq_of_alike`, `ofShape_eq_of_alike`: The two passes of the reader.
* `reading_ignores_arrangement`: What a spec is read as does not depend on how it is
  arranged.
-/

namespace ClassForge

namespace Spec

open Json

/-- What is said about a value by a schema, if anything is. -/
abbrev Place := Option Schema

namespace Place

/-- A key that matters in an object at a place. If nothing is said about the object, every
    key does. -/
def Knows : Place → String → Prop
  | some (.record entries), key => key ∈ entries.map Schema.Entry.key
  | _, _ => True

instance (place : Place) (key : String) : Decidable (place.Knows key) :=
  match place with
  | some (.record entries) => inferInstanceAs (Decidable (key ∈ entries.map Schema.Entry.key))
  | some .text => .isTrue trivial
  | some .note => .isTrue trivial
  | some (.items _) => .isTrue trivial
  | none => .isTrue trivial

/-- The place of what is under a key. -/
def under : Place → String → Place
  | some (.record entries), key =>
    (entries.find? fun entry => entry.key = key).map Schema.Entry.schema
  | _, _ => none

/-- The place of an item of an array. -/
def item : Place → Nat → Place
  | some (.items item), _ => some item
  | some (.record entries), index => entries[index]?.map Schema.Entry.schema
  | _, _ => none

end Place

/-- One value can be edited into the other by putting the members of objects into
    another order and by adding and removing members under keys that do not matter. -/
inductive Rearranged : Place → Value → Value → Prop where
  | refl (place : Place) (value : Value) : Rearranged place value value
  | symm {place : Place} {value value' : Value} (h : Rearranged place value value') :
      Rearranged place value' value
  | trans {place : Place} {value value' value'' : Value} (h : Rearranged place value value')
      (h' : Rearranged place value' value'') : Rearranged place value value''
  /-- The members of an object with distinct keys, in another order. -/
  | reorder {place : Place} {members members' : List (Member String)}
      (hnodup : (members.map Member.key).Nodup) (hperm : members.Perm members') :
      Rearranged place (.object members) (.object members')
  /-- One more member, under a key that does not matter. -/
  | unknown {place : Place} {before after : List (Member String)} {key : String} {value : Value}
      (hkey : ¬ place.Knows key) :
      Rearranged place (.object (before ++ after)) (.object (before ++ .member key value :: after))
  /-- An edit of the value of a member. -/
  | member {place : Place} {before after : List (Member String)} {key : String}
      {value value' : Value} (h : Rearranged (place.under key) value value') :
      Rearranged place (.object (before ++ .member key value :: after))
        (.object (before ++ .member key value' :: after))
  /-- An edit of an item of an array. -/
  | item {place : Place} {before after : List Value} {value value' : Value}
      (h : Rearranged (place.item before.length) value value') :
      Rearranged place (.array (before ++ value :: after)) (.array (before ++ value' :: after))

/-- Two values that are the same, or give something alike to every look-up that matters. -/
inductive Alike : Place → Value → Value → Prop where
  | same (place : Place) (value : Value) : Alike place value value
  | array {place : Place} {items items' : List Value} (hlength : items.length = items'.length)
      (h : ∀ (index : Nat) item item', items[index]? = some item → items'[index]? = some item' →
        Alike (place.item index) item item') :
      Alike place (.array items) (.array items')
  | object {place : Place} {members members' : List (Member String)}
      (habsent : ∀ key, place.Knows key →
        ((Data.object members).get? key = none ↔ (Data.object members').get? key = none))
      (h : ∀ key, place.Knows key → ∀ found found', (Data.object members).get? key = some found →
        (Data.object members').get? key = some found' → Alike (place.under key) found found') :
      Alike place (.object members) (.object members')

namespace Alike

variable {place : Place} {value value' value'' : Value}

theorem symm (h : Alike place value value') : Alike place value' value := by
  induction h with
  | same place value => exact .same place value
  | array hlength _ ih =>
      exact .array hlength.symm fun index item item' hitem hitem' =>
        ih index item' item hitem' hitem
  | object habsent _ ih =>
      exact .object (fun key hkey => (habsent key hkey).symm)
        fun key hkey found found' hfound hfound' => ih key hkey found' found hfound' hfound

theorem trans (h : Alike place value value') (h' : Alike place value' value'') :
    Alike place value value'' := by
  induction h generalizing value'' with
  | same => exact h'
  | @array place items items' hlength h ih =>
      cases h' with
      | same => exact .array hlength h
      | array hlength' h' =>
          refine .array (hlength.trans hlength') fun index item item'' hitem hitem'' => ?_
          -- There is an item in between, because there is one on either side.
          have hindex : index < items'.length := by
            rw [← hlength]
            exact (List.getElem?_eq_some_iff.mp hitem).1
          have hmiddle := List.getElem?_eq_getElem hindex
          exact ih index _ _ hitem hmiddle (h' index _ _ hmiddle hitem'')
  | @object place members members' habsent h ih =>
      cases h' with
      | same => exact .object habsent h
      | object habsent' h' =>
          refine .object (fun key hkey => (habsent key hkey).trans (habsent' key hkey)) ?_
          intro key hkey found found'' hfound hfound''
          have hpresent : (Data.object members').get? key ≠ none := by
            rw [Ne, ← habsent key hkey, hfound]
            exact Option.some_ne_none found
          rcases Option.ne_none_iff_exists'.mp hpresent with ⟨found', hfound'⟩
          exact ih key hkey found found' hfound hfound'
            (h' key hkey found' found'' hfound' hfound'')

/-- Under a key that matters, alike values both have nothing or have something alike. -/
theorem get? (h : Alike place value value') {key : String} (hkey : place.Knows key) :
    Option.Rel (Alike (place.under key)) (value.get? key) (value'.get? key) := by
  cases h with
  | same =>
      cases value.get? key with
      | none => exact .none
      | some found => exact .some (.same _ found)
  | array => exact .none
  | @object _ members members' habsent h =>
      cases hfound : (Data.object members).get? key with
      | none =>
          rw [(habsent key hkey).mp hfound]
          exact .none
      | some found =>
          cases hfound' : (Data.object members').get? key with
          | none =>
              rw [(habsent key hkey).mpr hfound'] at hfound
              cases hfound
          | some found' => exact .some (h key hkey found found' hfound hfound')

theorem string?_eq (h : Alike place value value') : value.string? = value'.string? := by
  cases h <;> rfl

theorem isNull_eq (h : Alike place value value') : value.isNull = value'.isNull := by
  cases h <;> rfl

/-- The items of alike arrays are alike one by one. -/
theorem items? {schema : Schema} (h : Alike (some (.items schema)) value value') :
    Option.Rel (List.Forall₂ (Alike (some schema))) value.items? value'.items? := by
  cases h with
  | same =>
      cases value.items? with
      | none => exact .none
      | some items => exact .some (List.forall₂_same.mpr fun item _ => .same _ item)
  | array hlength h =>
      refine .some (List.forall₂_iff_get.mpr ⟨hlength, fun index hindex hindex' => ?_⟩)
      exact h index _ _ (List.getElem?_eq_getElem hindex) (List.getElem?_eq_getElem hindex')
  | object => exact .none

end Alike

section Edits

/-- Among members with distinct keys, what is looked up is what some member has. -/
theorem get?_object_eq_some_iff {members : List (Member String)}
    (hnodup : (members.map Member.key).Nodup) {key : String} {found : Value} :
    (Data.object members).get? key = some found ↔
      ∃ member ∈ members, member.key = key ∧ member.value = found := by
  induction members with
  | nil =>
      refine iff_of_false (Option.some_ne_none found).symm ?_
      rintro ⟨_, hmember, _⟩
      exact List.not_mem_nil hmember
  | cons member members ih =>
      rw [List.map_cons, List.nodup_cons, List.mem_map] at hnodup
      rw [get?_object_cons]
      simp only [List.mem_cons, exists_eq_or_imp, ← ih hnodup.2]
      by_cases hkey : member.key = key
      · -- No other member has the key of this one.
        have hrest : (Data.object members).get? key = none :=
          get?_object_eq_none_iff.mpr fun other hother heq =>
            hnodup.1 ⟨other, hother, heq.trans hkey.symm⟩
        simp only [hrest, hkey, if_true, Option.none_or, Option.some.injEq, true_and, reduceCtorEq,
          or_false]
      · simp only [hkey, if_false, Option.or_none, false_and, false_or]

/-- The order of members with distinct keys does not matter to look-ups. -/
theorem get?_of_perm {members members' : List (Member String)}
    (hnodup : (members.map Member.key).Nodup) (hperm : members.Perm members') (key : String) :
    (Data.object members).get? key = (Data.object members').get? key := by
  have hnodup' : (members'.map Member.key).Nodup := (hperm.map Member.key).nodup_iff.mp hnodup
  refine Option.ext fun found => ?_
  rw [get?_object_eq_some_iff hnodup, get?_object_eq_some_iff hnodup']
  simp only [hperm.mem_iff]

/-- Values whose look-ups that matter have the same results are alike. -/
theorem alike_of_get?_eq {place : Place} {members members' : List (Member String)}
    (h : ∀ key, place.Knows key →
      (Data.object members).get? key = (Data.object members').get? key) :
    Alike place (.object members) (.object members') := by
  refine .object (fun key hkey => by rw [h key hkey]) ?_
  intro key hkey found found' hfound hfound'
  rw [h key hkey, hfound', Option.some.injEq] at hfound
  rw [hfound]
  exact .same _ _

/-- What is looked up in an object, seen from one of its members: a later member comes
    first, then the member itself, then the earlier ones. -/
theorem get?_object_around (before after : List (Member String)) (key : String) (value : Value)
    (other : String) :
    (Data.object (before ++ .member key value :: after)).get? other
      = ((Data.object after).get? other).or
        ((if key = other then some value else none).or ((Data.object before).get? other)) := by
  rw [get?_object_append, get?_object_cons, Option.or_assoc]
  rfl

theorem alike_unknown {place : Place} {key : String} (hkey : ¬ place.Knows key)
    (before after : List (Member String)) (value : Value) :
    Alike place (.object (before ++ after)) (.object (before ++ .member key value :: after)) := by
  refine alike_of_get?_eq fun other hother => ?_
  have hne : key ≠ other := by
    rintro rfl
    exact hkey hother
  rw [get?_object_around, if_neg hne, Option.none_or, get?_object_append]

theorem alike_member {place : Place} {key : String} {value value' : Value}
    (h : Alike (place.under key) value value') (before after : List (Member String)) :
    Alike place (.object (before ++ .member key value :: after))
      (.object (before ++ .member key value' :: after)) := by
  -- Any look-up finds either the member that was edited or one that was not.
  have hcases : ∀ other,
      ((Data.object (before ++ .member key value :: after)).get? other
          = (Data.object (before ++ .member key value' :: after)).get? other) ∨
        (key = other ∧
          (Data.object (before ++ .member key value :: after)).get? other = some value ∧
          (Data.object (before ++ .member key value' :: after)).get? other = some value') := by
    intro other
    simp only [get?_object_around]
    cases (Data.object after).get? other with
    | some found => exact .inl rfl
    | none =>
        by_cases hkey : key = other
        · rw [if_pos hkey, if_pos hkey]
          exact .inr ⟨hkey, rfl, rfl⟩
        · rw [if_neg hkey, if_neg hkey]
          exact .inl rfl
  refine .object (fun other _ => ?_) fun other _ found found' hfound hfound' => ?_
  · rcases hcases other with heq | ⟨-, hvalue, hvalue'⟩
    · rw [heq]
    · rw [hvalue, hvalue']
      exact iff_of_false (Option.some_ne_none _) (Option.some_ne_none _)
  · rcases hcases other with heq | ⟨rfl, hvalue, hvalue'⟩
    · rw [heq, hfound', Option.some.injEq] at hfound
      rw [hfound]
      exact .same _ _
    · rw [hvalue, Option.some.injEq] at hfound
      rw [hvalue', Option.some.injEq] at hfound'
      rwa [← hfound, ← hfound']

theorem alike_item {place : Place} {before : List Value} {value value' : Value}
    (h : Alike (place.item before.length) value value') (after : List Value) :
    Alike place (.array (before ++ value :: after)) (.array (before ++ value' :: after)) := by
  refine .array (by simp only [List.length_append, List.length_cons]) ?_
  intro index item item' hitem hitem'
  by_cases hindex : index = before.length
  · subst hindex
    rw [List.getElem?_append_right (Nat.le_refl _), Nat.sub_self, List.getElem?_cons_zero,
      Option.some.injEq] at hitem hitem'
    rwa [← hitem, ← hitem']
  · -- Everywhere else the items are the same.
    have heq : (before ++ value :: after)[index]? = (before ++ value' :: after)[index]? := by
      by_cases hbefore : index < before.length
      · rw [List.getElem?_append_left hbefore, List.getElem?_append_left hbefore]
      · rw [List.getElem?_append_right (by omega), List.getElem?_append_right (by omega),
          List.getElem?_cons, List.getElem?_cons, if_neg (by omega), if_neg (by omega)]
    rw [heq, hitem', Option.some.injEq] at hitem
    rw [hitem]
    exact .same _ _

/-- Edits make values alike. -/
theorem Rearranged.alike {place : Place} {value value' : Value}
    (h : Rearranged place value value') : Alike place value value' := by
  induction h with
  | refl place value => exact .same place value
  | symm _ ih => exact ih.symm
  | trans _ _ ih ih' => exact ih.trans ih'
  | reorder hnodup hperm => exact alike_of_get?_eq fun key _ => get?_of_perm hnodup hperm key
  | unknown hkey => exact alike_unknown hkey _ _ _
  | member _ ih => exact alike_member ih _ _
  | item _ ih => exact alike_item ih _

end Edits

section Results

variable {α β γ : Type} {related : α → α → Prop}

theorem isNone_eq_of_rel {first second : Option α} (h : Option.Rel related first second) :
    first.isNone = second.isNone := by
  cases h <;> rfl

theorem bind_eq_of_rel {first second : Option α} (h : Option.Rel related first second)
    {read read' : α → Option β} (hread : ∀ a b, related a b → read a = read' b) :
    first.bind read = second.bind read' := by
  cases h with
  | none => rfl
  | some h => exact hread _ _ h

theorem rel_bind {first second : Option α} (h : Option.Rel related first second)
    {relatedTo : β → β → Prop} {read : α → Option β}
    (hread : ∀ a b, related a b → Option.Rel relatedTo (read a) (read b)) :
    Option.Rel relatedTo (first.bind read) (second.bind read) := by
  cases h with
  | none => exact .none
  | some h => exact hread _ _ h

theorem getD_of_rel {first second : Option (List α)}
    (h : Option.Rel (List.Forall₂ related) first second) :
    List.Forall₂ related (first.getD []) (second.getD []) := by
  cases h with
  | none => exact .nil
  | some h => exact h

theorem mapM_eq_of_forall₂ {values values' : List α} (h : List.Forall₂ related values values')
    {read : α → Option β} (hread : ∀ a b, related a b → read a = read b) :
    values.mapM read = values'.mapM read := by
  induction h with
  | nil => rfl
  | cons h _ ih => rw [List.mapM_cons, List.mapM_cons, hread _ _ h, ih]

end Results

section Missing

variable {place : Place} {value value' : Value}

theorem missingKey?_eq_of_alike (h : Alike place value value') (path : String)
    {keys : List String} (hkeys : ∀ key ∈ keys, place.Knows key) :
    missingKey? value path keys = missingKey? value' path keys := by
  unfold missingKey?
  rw [List.find?_congr fun key hkey => isNone_eq_of_rel (h.get? (hkeys key hkey))]

theorem missingInGroups_eq_of_alike {groups groups' : List Value}
    (h : List.Forall₂ (Alike (some tagSchema)) groups groups') (path : String) (index : Nat) :
    missingInGroups path index groups = missingInGroups path index groups' := by
  induction h generalizing index with
  | nil => rfl
  | cons h _ ih =>
      rw [missingInGroups, missingInGroups, missingKey?_eq_of_alike h _ (by decide), ih]

/-- The items under a key that is known to be an array are alike one by one. -/
theorem itemsAt_of_alike {schema : Schema} (h : Alike place value value') {key : String}
    (hkey : place.Knows key) (hunder : place.under key = some (.items schema)) :
    List.Forall₂ (Alike (some schema)) (itemsAt value key) (itemsAt value' key) := by
  have hfound := h.get? hkey
  rw [hunder] at hfound
  exact getD_of_rel (rel_bind hfound fun _ _ h => h.items?)

theorem missingInFields_eq_of_alike {fields fields' : List Value}
    (h : List.Forall₂ (Alike (some fieldSchema)) fields fields') (index : Nat) :
    missingInFields index fields = missingInFields index fields' := by
  induction h generalizing index with
  | nil => rfl
  | cons h _ ih =>
      have hgroups := itemsAt_of_alike h (by decide : Place.Knows _ "groups") rfl
      rw [missingInFields, missingInFields, missingKey?_eq_of_alike h _ (by decide),
        missingInGroups_eq_of_alike hgroups, ih]

theorem missingInSection_eq_of_alike (h : Alike (some specSchema) value value')
    (language : Language) {keys : List String} {schema : Schema}
    (hlanguage : Place.Knows (some sectionsSchema) language.name)
    (hunder : Place.under (some sectionsSchema) language.name = some schema)
    (hkeys : ∀ key ∈ keys, Place.Knows (some schema) key) :
    missingInSection value language keys = missingInSection value' language keys := by
  have hlang : Option.Rel (Alike (some sectionsSchema)) (value.get? "lang") (value'.get? "lang") :=
    h.get? (by decide : Place.Knows _ "lang")
  have hfound := rel_bind hlang fun _ _ h => h.get? hlanguage
  rw [hunder] at hfound
  exact bind_eq_of_rel hfound fun found found' h => missingKey?_eq_of_alike h _ hkeys

/-- The first pass does not tell alike values apart. -/
theorem firstMissing_eq_of_alike (h : Alike (some specSchema) value value') :
    firstMissing value = firstMissing value' := by
  have hfields := itemsAt_of_alike h (by decide : Place.Knows _ "fields") rfl
  unfold firstMissing
  rw [missingKey?_eq_of_alike h _ (by decide),
    missingInSection_eq_of_alike h .php (by decide) rfl (by decide),
    missingInSection_eq_of_alike h .ts (by decide) rfl (by decide),
    missingInFields_eq_of_alike hfields]

end Missing

section Shapes

variable {place : Place} {value value' : Value}

theorem textAt?_eq_of_alike (h : Alike place value value') {key : String}
    (hkey : place.Knows key) : textAt? value key = textAt? value' key :=
  bind_eq_of_rel (h.get? hkey) fun _ _ h => h.string?_eq

theorem unlessNull_eq_of_alike {α : Type} {read : Value → Option α}
    (hread : ∀ found found', Alike place found found' → read found = read found')
    (h : Alike place value value') : unlessNull read value = unlessNull read value' := by
  rw [unlessNull, unlessNull, h.isNull_eq, hread _ _ h]

theorem optionalAt?_eq_of_alike {α : Type} {read : Value → Option α} (h : Alike place value value')
    {key : String} (hkey : place.Knows key)
    (hread : ∀ found found', Alike (place.under key) found found' → read found = read found') :
    optionalAt? read value key = optionalAt? read value' key := by
  have hfound := h.get? hkey
  unfold optionalAt?
  generalize value.get? key = found, value'.get? key = found' at hfound
  cases hfound with
  | none => rfl
  | some hfound => exact unlessNull_eq_of_alike hread hfound

theorem GroupTag.ofShape_eq_of_alike (h : Alike (some tagSchema) value value') :
    ofShape value = ofShape value' := by
  rw [ofShape, ofShape, textAt?_eq_of_alike h (by decide : Place.Knows _ "name"),
    textAt?_eq_of_alike h (by decide : Place.Knows _ "member")]

theorem Field.ofShape_eq_of_alike (h : Alike (some fieldSchema) value value') :
    ofShape value = ofShape value' := by
  have hname := textAt?_eq_of_alike h (by decide : Place.Knows _ "name")
  have htype := textAt?_eq_of_alike h (by decide : Place.Knows _ "type")
  have hcomment : optionalAt? Data.string? value "comment"
      = optionalAt? Data.string? value' "comment" :=
    optionalAt?_eq_of_alike h (by decide) fun _ _ h => h.string?_eq
  have hgroups : Option.Rel (Alike (some (.items tagSchema))) (value.get? "groups")
      (value'.get? "groups") := h.get? (by decide : Place.Knows _ "groups")
  unfold ofShape
  rw [hname, htype, hcomment]
  generalize value.get? "groups" = found, value'.get? "groups" = found' at hgroups
  cases hgroups with
  | none => rfl
  | some hgroups =>
      have htags := bind_eq_of_rel hgroups.items? fun _ _ h =>
        mapM_eq_of_forall₂ h fun _ _ h => GroupTag.ofShape_eq_of_alike h
      simp only [Option.bind_eq_bind, ← Option.bind_assoc, htags]

/-- Arrays whose items are alike have the same texts in the same places. -/
theorem map_string?_eq_of_alike {items items' : List Value}
    (h : Alike place (.array items) (.array items')) :
    items.map Data.string? = items'.map Data.string? := by
  cases h with
  | same => rfl
  | array hlength h =>
      refine List.ext_getElem (by simpa only [List.length_map] using hlength) ?_
      intro index hindex hindex'
      rw [List.length_map] at hindex hindex'
      rw [List.getElem_map, List.getElem_map]
      exact (h index _ _ (List.getElem?_eq_getElem hindex)
        (List.getElem?_eq_getElem hindex')).string?_eq

theorem PhpSection.ofShape_array (items : List Value) :
    ofShape (.array items) = match items.map Data.string? with
      | [some namespaceName, some className] => some ⟨namespaceName, className⟩
      | _ => none := by
  rcases items with _ | ⟨a, _ | ⟨b, _ | ⟨c, rest⟩⟩⟩
  · rfl
  · cases a <;> rfl
  · cases a <;> cases b <;> rfl
  · cases a <;> cases b <;> rfl

theorem PhpSection.ofShape_eq_of_alike (h : Alike (some phpSchema) value value') :
    ofShape value = ofShape value' := by
  have hnamespace := textAt?_eq_of_alike h (by decide : Place.Knows _ "namespace")
  have hclass := textAt?_eq_of_alike h (by decide : Place.Knows _ "clazz")
  cases value with
  | array items =>
      cases h with
      | same => rfl
      | array hlength hitems =>
          rw [ofShape_array, ofShape_array, map_string?_eq_of_alike (.array hlength hitems)]
  | object members =>
      cases h with
      | same => rfl
      | object => simp only [ofShape, hnamespace, hclass]
  | _ =>
      cases h
      rfl

theorem TsSection.ofShape_array (items : List Value) :
    ofShape (.array items) = match items.map Data.string? with
      | [some className] => some ⟨className⟩
      | _ => none := by
  rcases items with _ | ⟨a, _ | ⟨b, rest⟩⟩
  · rfl
  · cases a <;> rfl
  · cases a <;> rfl

theorem TsSection.ofShape_eq_of_alike (h : Alike (some tsSchema) value value') :
    ofShape value = ofShape value' := by
  have hclass := textAt?_eq_of_alike h (by decide : Place.Knows _ "clazz")
  cases value with
  | array items =>
      cases h with
      | same => rfl
      | array hlength hitems =>
          rw [ofShape_array, ofShape_array, map_string?_eq_of_alike (.array hlength hitems)]
  | object members =>
      cases h with
      | same => rfl
      | object => simp only [ofShape, hclass]
  | _ =>
      cases h
      rfl

theorem Sections.ofShape_eq_of_alike (h : Alike (some sectionsSchema) value value') :
    ofShape value = ofShape value' := by
  have hphp : optionalAt? PhpSection.ofShape value "php"
      = optionalAt? PhpSection.ofShape value' "php" :=
    optionalAt?_eq_of_alike h (by decide) fun _ _ h => PhpSection.ofShape_eq_of_alike h
  have hts : optionalAt? TsSection.ofShape value "ts"
      = optionalAt? TsSection.ofShape value' "ts" :=
    optionalAt?_eq_of_alike h (by decide) fun _ _ h => TsSection.ofShape_eq_of_alike h
  cases value with
  | array items =>
      cases h with
      | same => rfl
      | @array _ _ items' hlength hitems =>
          -- Only the first two items are looked at, and more of them are refused.
          match items, items' with
          | [], [] => rfl
          | [php], [php'] =>
              have hphp := unlessNull_eq_of_alike (fun _ _ h => PhpSection.ofShape_eq_of_alike h)
                (hitems 0 php php' rfl rfl)
              simp only [ofShape, hphp]
          | [php, ts], [php', ts'] =>
              have hphp := unlessNull_eq_of_alike (fun _ _ h => PhpSection.ofShape_eq_of_alike h)
                (hitems 0 php php' rfl rfl)
              have hts := unlessNull_eq_of_alike (fun _ _ h => TsSection.ofShape_eq_of_alike h)
                (hitems 1 ts ts' rfl rfl)
              simp only [ofShape, hphp, hts]
          | _ :: _ :: _ :: _, _ :: _ :: _ :: _ => rfl
  | object members =>
      cases h with
      | same => rfl
      | object => simp only [ofShape, Data.isObject, hphp, hts]
  | _ =>
      cases h
      rfl

/-- The second pass does not tell alike values apart. -/
theorem ofShape_eq_of_alike (h : Alike (some specSchema) value value') :
    ofShape value = ofShape value' := by
  have houtDir := textAt?_eq_of_alike h (by decide : Place.Knows _ "outDir")
  have hlang : Option.Rel (Alike (some sectionsSchema)) (value.get? "lang") (value'.get? "lang") :=
    h.get? (by decide : Place.Knows _ "lang")
  have hfields : Option.Rel (Alike (some (.items fieldSchema))) (value.get? "fields")
      (value'.get? "fields") := h.get? (by decide : Place.Knows _ "fields")
  have hitems := rel_bind hfields fun _ _ h => h.items?
  have hsections := bind_eq_of_rel hlang fun _ _ h => Sections.ofShape_eq_of_alike h
  unfold ofShape
  rw [houtDir, hsections]
  have hread := bind_eq_of_rel hitems fun _ _ h =>
    mapM_eq_of_forall₂ h fun _ _ h => Field.ofShape_eq_of_alike h
  simp only [Option.bind_eq_bind, ← Option.bind_assoc, hread]

/-- Alike values are read as the same spec or refused in the same way. -/
theorem ofValue_eq_of_alike (h : Alike (some specSchema) value value') :
    ofValue value = ofValue value' := by
  rw [ofValue, ofValue, firstMissing_eq_of_alike h, ofShape_eq_of_alike h]

end Shapes

section Repeated

/-- What is looked up in an object is the value of one of its members. -/
theorem exists_member_of_get? {members : List (Member String)} {key : String} {found : Value}
    (h : (Data.object members).get? key = some found) :
    ∃ member ∈ members, member.value = found := by
  rcases Option.map_eq_some_iff.mp h with ⟨member, hmember, hvalue⟩
  exact ⟨member, List.mem_reverse.mp (List.mem_of_find?_eq_some hmember), hvalue⟩

mutual

/-- Members that do not count make no difference to any look-up. -/
theorem alike_lastOnly : (value : Value) → (place : Place) → Alike place value (value.lastOnly id)
  | .null, _ => .same _ _
  | .bool _, _ => .same _ _
  | .number _, _ => .same _ _
  | .string _, _ => .same _ _
  | .array items, place => by
    rw [Data.lastOnly, allLastOnly_eq_map]
    refine .array (List.length_map _).symm fun index item item' hitem hitem' => ?_
    rw [List.getElem?_map, hitem, Option.map_some, Option.some.injEq] at hitem'
    rw [← hitem']
    exact alike_allLastOnly items item (List.mem_of_getElem? hitem) (place.item index)
  | .object members, place => by
    rw [Data.lastOnly]
    refine .object (fun key _ => ?_) fun key _ found found' hfound hfound' => ?_
    · rw [get?_lastMembers, Option.map_eq_none_iff]
    · rw [get?_lastMembers, hfound, Option.map_some, Option.some.injEq] at hfound'
      rcases exists_member_of_get? hfound with ⟨member, hmember, rfl⟩
      rw [← hfound']
      exact alike_memberLastOnly members member hmember (place.under key)

theorem alike_allLastOnly : (items : List Value) → ∀ item ∈ items, ∀ place : Place,
    Alike place item (item.lastOnly id)
  | [] => List.forall_mem_nil _
  | item :: items => List.forall_mem_cons.mpr ⟨alike_lastOnly item, alike_allLastOnly items⟩

theorem alike_memberLastOnly : (members : List (Member String)) → ∀ member ∈ members,
    ∀ place : Place, Alike place member.value (member.value.lastOnly id)
  | [] => List.forall_mem_nil _
  | .member _ value :: members =>
    List.forall_mem_cons.mpr ⟨alike_lastOnly value, alike_memberLastOnly members⟩

end

end Repeated

theorem ofText_of_document? {text : String} {document : Document}
    (h : document? text = some document) :
    ofText text = match document.value? with
      | none => .error (.invalid .malformed)
      | some value => ofValue value := by
  rw [ofText, Json.value?, h]
  rfl

/-- What a spec is read as, or how it is refused, does not depend on how it is arranged:
    values that can be edited into each other by reordering members and by adding and
    removing members under unknown keys are read alike, and a text is read as if only the
    last of several members with the same key were there. For this all of them have to be
    readable: a text with a member that is not is malformed, even if another one counts. -/
theorem reading_ignores_arrangement :
    (∀ value value' : Value, Rearranged (some specSchema) value value' →
      ofValue value = ofValue value') ∧
    ∀ (text : String) (document : Document), document? text = some document →
      (document.value? = none → ofText text = .error (.invalid .malformed)) ∧
      ∀ value : Value, document.value? = some value →
        ofText text = ofValue (value.lastOnly id) ∧
        ∀ shorter : String, document? shorter = some (document.lastOnly Spelling.text?) →
          ofText text = ofText shorter := by
  refine ⟨fun value value' h => ofValue_eq_of_alike h.alike, ?_⟩
  intro text document hdocument
  have htext := ofText_of_document? hdocument
  refine ⟨fun hnone => by rw [htext, hnone], fun value hvalue => ?_⟩
  have hlast : ofText text = ofValue (value.lastOnly id) := by
    rw [htext, hvalue]
    exact ofValue_eq_of_alike (alike_lastOnly value (some specSchema))
  refine ⟨hlast, fun shorter hshorter => ?_⟩
  have hleft : (document.lastOnly Spelling.text?).value? = some (value.lastOnly id) :=
    valueWithin?_lastOnly document hvalue
  rw [hlast, ofText_of_document? hshorter, hleft]

/-- A field without a type is reported in the same way if a group of it has another order
    and a note besides, and if the fields come first; and a text with two output
    directories is read as if the first were not there. -/
theorem reading_ignores_arrangement_of_nested_objects :
    let name : Member String := .member "name" (.string "row")
    let key : Member String := .member "member" (.string "id")
    let note : Member String := .member "note" .null
    let fields (groups : List (Member String)) : Member String :=
      .member "fields" (.array [.object [.member "name" (.string "id"),
        .member "groups" (.array [.object groups])]])
    let outDir : Member String := .member "outDir" (.string "out")
    let lang : Member String := .member "lang" (.array [])
    let value : Value := .object [outDir, lang, fields [name, key]]
    let value' : Value := .object [fields [key, note, name], outDir, lang]
    let repeated : Value := .object [.member "outDir" .null, outDir, lang, fields []]
    (Rearranged (some specSchema) value value' ∧ ofValue value = ofValue value' ∧
      ofValue value = .error (.missingKey "fields[0].type")) ∧
    ∃ document : Document, document? repeated.write = some document ∧
      ofText repeated.write = ofText (Data.object [outDir, lang, fields []]).write := by
  intro name key note fields outDir lang value value' repeated
  have hgroup : Rearranged (some tagSchema) (.object [name, key]) (.object [key, note, name]) :=
    .trans (.reorder (by decide) (.swap key name []))
      (@Rearranged.unknown _ [key] [name] "note" .null (by decide))
  have hvalue : Rearranged (some specSchema) value value' := by
    refine @Rearranged.trans _ _ (.object [outDir, lang, fields [key, note, name]]) _ ?_ ?_
    · refine @Rearranged.member _ [outDir, lang] [] "fields" _ _ ?_
      refine @Rearranged.item _ [] [] _ _ ?_
      refine @Rearranged.member _ [.member "name" (.string "id")] [] "groups" _ _ ?_
      exact @Rearranged.item _ [] [] _ _ hgroup
    · exact .reorder (by decide) (@List.perm_append_comm _ [outDir, lang] _)
  have hdocument : document? repeated.write = some repeated.spelled := by
    rw [document?_write]
    rfl
  have hshorter : document? (Data.object [outDir, lang, fields []]).write
      = some (repeated.spelled.lastOnly Spelling.text?) := by
    rw [document?_write]
    rfl
  have hread : repeated.spelled.value? = some repeated := rfl
  rcases reading_ignores_arrangement with ⟨hvalues, htexts⟩
  exact ⟨⟨hvalue, hvalues value value' hvalue, by decide⟩, _, hdocument,
    ((htexts _ _ hdocument).2 _ hread).2 _ hshorter⟩

/-- A text with an output directory that is out of range is malformed, although a second
    one replaces it and the text would be read without the first. -/
theorem replaced_member_must_be_readable :
    let php : Value := .object [.member "namespace" (.string "App"),
      .member "clazz" (.string "Item")]
    let ts : Value := .object [.member "clazz" (.string "Item")]
    let members : List (Member String) := [.member "outDir" (.string "out"),
      .member "lang" (.object [.member "php" php, .member "ts" ts]), .member "fields" (.array [])]
    let text := (Data.object (.member "outDir" (.number "1e999".toList) :: members)).write
    let shorter := (Data.object members).write
    ∃ document : Document, document? text = some document ∧
      document? shorter = some (document.lastOnly Spelling.text?) ∧
      ofText text = .error (.invalid .malformed) ∧
      ofText shorter = .ok ⟨"out", ⟨some ⟨"App", "Item"⟩, some ⟨"Item"⟩⟩, []⟩ := by
  intro php ts members text shorter
  have htext : document? text
      = some (Data.object (.member "outDir" (.number "1e999".toList) :: members)).spelled := by
    rw [document?_write]
    rfl
  have hshorter : document? shorter = some (Data.object members).spelled := by
    rw [document?_write]
    rfl
  refine ⟨_, htext, ?_, ?_, ?_⟩
  · rw [hshorter]
    rfl
  · rw [ofText_of_document? htext]
    rfl
  · rw [ofText_of_document? hshorter]
    rfl

end Spec

end ClassForge
