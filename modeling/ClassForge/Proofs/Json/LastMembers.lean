import ClassForge.Json.Value

/-!
# Repeated Keys

An object may have several members with the same key, and the last of them counts.
This module takes the others away, at every level of a text, and shows that nothing
is lost: what is left has the same value, less the members that do not count, and
every look-up finds the same thing.

Keys are compared by what they spell, since two keys may be spelled differently and
still be the same. In a document that is `Spelling.text?`, in a value it is the key
itself, so one definition with the reading of keys as a parameter serves both.

Taking members away can only help a document to have a value. A member that does not
count still has to be read, and if it is out of range or too deep, the document as a
whole has none.

## Main definitions

* `Data.lastOnly`: Data with only the last of several members with the same key.

## Theorems

* `get?_object_cons`, `get?_object_append`: Looking up a key in parts of an object.
* `valueWithin?_lastOnly`: The value of what is left.
* `get?_lastMembers`: Every look-up finds what it found before.
-/

namespace ClassForge

namespace Json

mutual

/-- Data with only the last of several members with the same key in every object, where
    keys are the same if they read the same. -/
def Data.lastOnly {σ κ : Type} [DecidableEq κ] (read : σ → κ) : Data σ → Data σ
  | .null => .null
  | .bool value => .bool value
  | .number literal => .number literal
  | .string text => .string text
  | .array items => .array (Data.allLastOnly read items)
  | .object members => .object (Data.lastMembers read members)

/-- Several data with only the last members. -/
def Data.allLastOnly {σ κ : Type} [DecidableEq κ] (read : σ → κ) : List (Data σ) → List (Data σ)
  | [] => []
  | item :: items => item.lastOnly read :: Data.allLastOnly read items

/-- A member with only the last members inside its value. -/
def Data.memberLastOnly {σ κ : Type} [DecidableEq κ] (read : σ → κ) : Member σ → Member σ
  | .member key value => .member key (value.lastOnly read)

/-- The last of several members with the same key, with only the last members inside their
    values. -/
def Data.lastMembers {σ κ : Type} [DecidableEq κ] (read : σ → κ) :
    List (Member σ) → List (Member σ)
  | [] => []
  | member :: members =>
    if ∃ later ∈ members, read later.key = read member.key then
      Data.lastMembers read members
    else Data.memberLastOnly read member :: Data.lastMembers read members

end

section Looking

variable {members : List (Member String)} {key : String}

/-- A later member counts more than an earlier one. -/
theorem get?_object_append (before after : List (Member String)) (key : String) :
    (Data.object (before ++ after)).get? key
      = ((Data.object after).get? key).or ((Data.object before).get? key) := by
  simp only [Data.get?, List.reverse_append, List.find?_append, Option.map_or]

theorem get?_object_singleton (member : Member String) (key : String) :
    (Data.object [member]).get? key = if member.key = key then some member.value else none := by
  simp only [Data.get?, List.reverse_singleton, List.find?_singleton, decide_eq_true_eq]
  split
  · rfl
  · rfl

theorem get?_object_cons (member : Member String) (members : List (Member String)) (key : String) :
    (Data.object (member :: members)).get? key
      = ((Data.object members).get? key).or
        (if member.key = key then some member.value else none) := by
  rw [← List.singleton_append, get?_object_append, get?_object_singleton]

theorem get?_object_cons_of_ne {member : Member String} (h : member.key ≠ key)
    (members : List (Member String)) :
    (Data.object (member :: members)).get? key = (Data.object members).get? key := by
  rw [get?_object_cons, if_neg h, Option.or_none]

/-- A key is found exactly if some member has it. -/
theorem get?_object_eq_none_iff :
    (Data.object members).get? key = none ↔ ∀ member ∈ members, member.key ≠ key := by
  rw [Data.get?, Option.map_eq_none_iff, List.find?_eq_none]
  simp only [List.mem_reverse, decide_eq_true_eq, ne_eq]

end Looking

section Left

variable {σ κ : Type} [DecidableEq κ] (read : σ → κ)

theorem key_memberLastOnly (member : Member σ) :
    (Data.memberLastOnly read member).key = member.key := by
  cases member
  rw [Data.memberLastOnly]
  rfl

theorem value_memberLastOnly (member : Member σ) :
    (Data.memberLastOnly read member).value = member.value.lastOnly read := by
  cases member
  rw [Data.memberLastOnly]
  rfl

theorem allLastOnly_eq_map (items : List (Data σ)) :
    Data.allLastOnly read items = items.map (Data.lastOnly read) := by
  induction items with
  | nil => rw [Data.allLastOnly, List.map_nil]
  | cons item items ih => rw [Data.allLastOnly, List.map_cons, ih]

/-- What is looked up among the members that are left is what was found before, with only
    the last members inside it. -/
theorem get?_lastMembers (members : List (Member String)) (key : String) :
    (Data.object (Data.lastMembers id members)).get? key
      = ((Data.object members).get? key).map (Data.lastOnly id) := by
  induction members with
  | nil => rw [Data.lastMembers]; rfl
  | cons member members ih =>
      have hown : (if member.key = key then some member.value else none).map (Data.lastOnly id)
          = if member.key = key then some (member.value.lastOnly id) else none := by
        split <;> rfl
      rw [Data.lastMembers, get?_object_cons, Option.map_or, hown, ← ih]
      by_cases hlater : ∃ later ∈ members, id later.key = id member.key
      · rw [if_pos hlater]
        by_cases hkey : member.key = key
        · -- A later member is found instead of this one.
          rcases hlater with ⟨later, hmember, hlater⟩
          have hfound : (Data.object members).get? key ≠ none :=
            fun hnone => get?_object_eq_none_iff.mp hnone later hmember (hlater.trans hkey)
          rcases Option.ne_none_iff_exists'.mp hfound with ⟨found, hfound⟩
          rw [ih, hfound, Option.map_some, Option.some_or]
        · rw [if_neg hkey, Option.or_none]
      · rw [if_neg hlater, get?_object_cons, key_memberLastOnly, value_memberLastOnly]

end Left

section Reading

variable {depth : Nat}

/-- Two things that are both needed. -/
theorem both_eq_some_iff {α β γ : Type} {first : Option α} {second : Option β} {make : α → β → γ}
    {result : γ} :
    (do
      let a ← first
      let b ← second
      return make a b) = some result ↔
      ∃ a b, first = some a ∧ second = some b ∧ result = make a b := by
  simp only [Option.bind_eq_bind, Option.bind_eq_some_iff, Option.pure_def, Option.some.injEq]
  constructor
  · rintro ⟨a, ha, b, hb, heq⟩
    exact ⟨a, b, ha, hb, heq.symm⟩
  · rintro ⟨a, b, ha, hb, heq⟩
    exact ⟨a, ha, b, hb, heq.symm⟩

theorem valuesWithin?_cons_eq_some {item : Document} {items : List Document}
    {values : List Value} :
    Data.valuesWithin? (item :: items) depth = some values ↔
      ∃ value rest, item.valueWithin? depth = some value ∧
        Data.valuesWithin? items depth = some rest ∧ values = value :: rest := by
  rw [Data.valuesWithin?, both_eq_some_iff]

theorem memberWithin?_eq_some {key : Spelling} {document : Document} {plain : Member String} :
    Data.memberWithin? (.member key document) depth = some plain ↔
      ∃ text value, Spelling.text? key = some text ∧ document.valueWithin? depth = some value ∧
        plain = .member text value := by
  rw [Data.memberWithin?, both_eq_some_iff]

theorem membersWithin?_cons_eq_some {member : Member Spelling} {members : List (Member Spelling)}
    {plains : List (Member String)} :
    Data.membersWithin? (member :: members) depth = some plains ↔
      ∃ plain rest, Data.memberWithin? member depth = some plain ∧
        Data.membersWithin? members depth = some rest ∧ plains = plain :: rest := by
  rw [Data.membersWithin?, both_eq_some_iff]

/-- A member that can be read has the key that it spells. -/
theorem text?_key_of_memberWithin? {member : Member Spelling} {plain : Member String}
    (h : Data.memberWithin? member depth = some plain) :
    Spelling.text? member.key = some plain.key := by
  rcases member with ⟨key, document⟩
  rcases memberWithin?_eq_some.mp h with ⟨text, value, htext, -, rfl⟩
  exact htext

/-- A key is repeated in what is read exactly if it is repeated in what is spelled. -/
theorem exists_key_iff_of_membersWithin? {members : List (Member Spelling)}
    {plains : List (Member String)} (h : Data.membersWithin? members depth = some plains)
    (key : String) :
    (∃ later ∈ members, Spelling.text? later.key = some key) ↔
      ∃ later ∈ plains, later.key = key := by
  induction members generalizing plains with
  | nil =>
      cases h
      simp only [List.not_mem_nil, false_and, exists_false]
  | cons member members ih =>
      rcases membersWithin?_cons_eq_some.mp h with ⟨plain, rest, hplain, hrest, rfl⟩
      simp only [List.mem_cons, exists_eq_or_imp, ih hrest, text?_key_of_memberWithin? hplain,
        Option.some.injEq]

mutual

/-- What is left of a document that has a value has what is left of that value. -/
theorem valueWithin?_lastOnly : (document : Document) → {depth : Nat} → {value : Value} →
    document.valueWithin? depth = some value →
    (document.lastOnly Spelling.text?).valueWithin? depth = some (value.lastOnly id)
  | .null, _, _, h => by cases h; rfl
  | .bool _, _, _, h => by cases h; rfl
  | .number literal, _, _, h => by
    rw [Data.lastOnly, h]
    rw [Data.valueWithin?] at h
    split at h
    · cases h
      rfl
    · cases h
  | .string spelling, _, _, h => by
    rw [Data.lastOnly, h]
    rcases Option.map_eq_some_iff.mp h with ⟨text, -, rfl⟩
    rfl
  | .array items, depth + 1, _, h => by
    rcases Option.map_eq_some_iff.mp h with ⟨values, hvalues, rfl⟩
    rw [Data.lastOnly, Data.valueWithin?, valuesWithin?_allLastOnly items hvalues]
    rfl
  | .object members, depth + 1, _, h => by
    rcases Option.map_eq_some_iff.mp h with ⟨plains, hplains, rfl⟩
    rw [Data.lastOnly, Data.valueWithin?, membersWithin?_lastMembers members hplains]
    rfl

theorem valuesWithin?_allLastOnly : (items : List Document) → {depth : Nat} →
    {values : List Value} → Data.valuesWithin? items depth = some values →
    Data.valuesWithin? (Data.allLastOnly Spelling.text? items) depth
      = some (Data.allLastOnly id values)
  | [], _, _, h => by cases h; rfl
  | item :: items, _, _, h => by
    rcases valuesWithin?_cons_eq_some.mp h with ⟨value, rest, hvalue, hrest, rfl⟩
    rw [Data.allLastOnly, Data.allLastOnly, valuesWithin?_cons_eq_some]
    exact ⟨_, _, valueWithin?_lastOnly item hvalue, valuesWithin?_allLastOnly items hrest, rfl⟩

theorem memberWithin?_memberLastOnly : (member : Member Spelling) → {depth : Nat} →
    {plain : Member String} → Data.memberWithin? member depth = some plain →
    Data.memberWithin? (Data.memberLastOnly Spelling.text? member) depth
      = some (Data.memberLastOnly id plain)
  | .member key document, _, _, h => by
    rcases memberWithin?_eq_some.mp h with ⟨text, value, htext, hvalue, rfl⟩
    rw [Data.memberLastOnly, Data.memberLastOnly, memberWithin?_eq_some]
    exact ⟨text, _, htext, valueWithin?_lastOnly document hvalue, rfl⟩

theorem membersWithin?_lastMembers : (members : List (Member Spelling)) → {depth : Nat} →
    {plains : List (Member String)} → Data.membersWithin? members depth = some plains →
    Data.membersWithin? (Data.lastMembers Spelling.text? members) depth
      = some (Data.lastMembers id plains)
  | [], _, _, h => by cases h; rfl
  | member :: members, _, _, h => by
    rcases membersWithin?_cons_eq_some.mp h with ⟨plain, rest, hplain, hrest, rfl⟩
    have hlater := exists_key_iff_of_membersWithin? hrest plain.key
    have hmembers := membersWithin?_lastMembers members hrest
    rw [← text?_key_of_memberWithin? hplain] at hlater
    rw [Data.lastMembers, Data.lastMembers]
    simp only [hlater, id_eq]
    split
    · exact hmembers
    · rw [membersWithin?_cons_eq_some]
      exact ⟨_, _, memberWithin?_memberLastOnly member hplain, hmembers, rfl⟩

end

end Reading

end Json

end ClassForge
