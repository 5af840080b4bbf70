import ClassForge.Proofs.Spec.Acceptance

/-!
# Locations of Required Keys

Which key is reported when a spec lacks several. Looking for a missing key is a
pair of nested loops that end at the first one they find, and what is left of it
in the end is a text. Here the places in a value are locations, which can be
followed into it, and the keys that a spec requires are listed by their locations
in one fixed order. `firstMissing_eq` says that the loops find the first location
in that list that leads nowhere.

Which locations there are depends on the value: a section is asked for its keys
only if it is there, and a field or a tag only if it is an item of an array.

A location is reported as a path with dots and brackets. No required key has a dot
or a bracket in its name, so the path says which location it is: `dotted_injective`
cuts a path at its marks and finds the steps again.

## Main definitions

* `Step`, `Location`: Ways into a value.
* `valueAt?`: What is at a location.
* `dotted`: The path of a location.
* `requiredLocations`: The locations of the keys that a spec requires.

## Theorems

* `dotted_injective`: Locations with plain keys have different paths.
* `missingKey?_eq`, `missingInSection_eq`: The first missing key of one object.
* `firstFound_eq`: The first missing key of several objects.
* `firstMissing_eq`: The first missing key of a spec.
* `missing_key_is_first_absent`: Which missing key is reported, and when.
-/

namespace ClassForge

namespace Spec

open Json

/-- A step into a value. -/
inductive Step where
  /-- To what is under a key. -/
  | key (name : String)
  /-- To an item of an array. -/
  | item (index : Nat)
  deriving DecidableEq

/-- A way into a value, step by step. -/
abbrev Location := List Step

/-- What is one step into a value. -/
def Step.follow (value : Value) : Step → Option Value
  | .key name => value.get? name
  | .item index => value.items?.bind fun items => items[index]?

/-- What is at a location of a value, if anything is. -/
def valueAt? : Value → Location → Option Value
  | value, [] => some value
  | value, step :: location => (step.follow value).bind (valueAt? · location)

/-- The items of the array at a location; what is no array has none. -/
def itemsOf (value : Value) (location : Location) : List Value :=
  ((valueAt? value location).bind Data.items?).getD []

/-- Nothing is at a location. -/
def isAbsent (value : Value) (location : Location) : Bool := (valueAt? value location).isNone

/-- A step as it stands in a path behind other steps. -/
def Step.written : Step → String
  | .key name => "." ++ name
  | .item index => "[" ++ index.repr ++ "]"

/-- Steps as they stand in a path behind other steps. -/
def writtenBehind : Location → String
  | [] => ""
  | step :: location => step.written ++ writtenBehind location

/-- The path of a location, without a dot in front of it. -/
def dotted : Location → String
  | .key name :: location => name ++ writtenBehind location
  | location => writtenBehind location

/-- The locations of some keys of what is at a location. -/
def keysBelow (location : Location) (keys : List String) : List Location :=
  keys.map fun key => location ++ [.key key]

/-- The locations of the keys of a section, if there is such a section. -/
def sectionLocations (value : Value) (name : String) (keys : List String) : List Location :=
  if isAbsent value [.key "lang", .key name] then []
  else keysBelow [.key "lang", .key name] keys

/-- The locations of the keys that the tags of a field require. -/
def tagLocations (value : Value) (field : Location) : List Location :=
  (List.range (itemsOf value (field ++ [.key "groups"])).length).flatMap fun index =>
    keysBelow (field ++ [.key "groups", .item index]) ["name", "member"]

/-- The locations of the keys that the fields of a spec require, those of each field
    in front of those of its tags. -/
def fieldLocations (value : Value) : List Location :=
  (List.range (itemsOf value [.key "fields"]).length).flatMap fun index =>
    keysBelow [.key "fields", .item index] ["name", "type"]
      ++ tagLocations value [.key "fields", .item index]

/-- The locations of the keys that a spec requires, in the order in which they are
    looked for. -/
def requiredLocations (value : Value) : List Location :=
  keysBelow [] ["outDir", "lang", "fields"]
    ++ sectionLocations value "php" ["namespace", "clazz"]
    ++ sectionLocations value "ts" ["clazz"]
    ++ fieldLocations value

section Paths

/-- The marks that a step may start with in a path. -/
def isMark (c : Char) : Bool := c = '.' || c = '['

/-- A key that has a name without marks. -/
def IsPlainKey (name : String) : Prop := name ≠ "" ∧ ∀ c ∈ name.toList, isMark c = false

-- It is the characters of the name that are looked at, not every character there is.
instance (name : String) : Decidable (IsPlainKey name) :=
  @instDecidableAnd _ _ _ (List.decidableBAll (fun c => isMark c = false) name.toList)

/-- A step that can be read off a path: an item, or a plain key. -/
def Step.IsPlain : Step → Prop
  | .key name => IsPlainKey name
  | .item _ => True

/-- A location that can be read off its path. -/
def IsPlain (location : Location) : Prop := ∀ step ∈ location, step.IsPlain

theorem isPlain_nil : IsPlain [] := List.forall_mem_nil _

theorem isPlain_cons {step : Step} {location : Location} :
    IsPlain (step :: location) ↔ step.IsPlain ∧ IsPlain location := List.forall_mem_cons

theorem isPlain_append {location rest : Location} :
    IsPlain (location ++ rest) ↔ IsPlain location ∧ IsPlain rest := List.forall_mem_append

theorem isPlain_key {name : String} (h : IsPlainKey name) : IsPlain [.key name] :=
  isPlain_cons.mpr ⟨h, isPlain_nil⟩

theorem isPlain_item (index : Nat) : IsPlain [.item index] :=
  isPlain_cons.mpr ⟨trivial, isPlain_nil⟩

/-- The mark that a step starts with in a path. -/
def Step.mark : Step → Char
  | .key _ => '.'
  | .item _ => '['

/-- What follows the mark of a step. -/
def Step.body : Step → List Char
  | .key name => name.toList
  | .item index => index.repr.toList ++ [']']

theorem Step.toList_written (step : Step) : step.written.toList = step.mark :: step.body := by
  cases step with
  | key name => rw [written, String.toList_append]; rfl
  | item index => rw [written, String.toList_append, String.toList_append]; rfl

theorem Step.isMark_mark (step : Step) : isMark step.mark = true := by
  cases step <;> rfl

/-- No mark stands inside a plain step. -/
theorem Step.IsPlain.isMark_body {step : Step} (h : step.IsPlain) :
    ∀ c ∈ step.body, isMark c = false := by
  cases step with
  | key name => exact h.2
  | item index =>
      intro c hc
      rw [body, List.mem_append, List.mem_singleton, Nat.toList_repr] at hc
      rcases hc with hdigit | rfl
      · have hdigit := Nat.isDigit_of_mem_toDigits (by omega) (by omega) hdigit
        rw [isMark, Bool.or_eq_false_iff, decide_eq_false_iff_not, decide_eq_false_iff_not]
        constructor
        · rintro rfl
          cases hdigit
        · rintro rfl
          cases hdigit
      · rfl

/-- A step is known by its mark and what follows it. -/
theorem Step.eq_of_mark_of_body {step other : Step} (hmark : step.mark = other.mark)
    (hbody : step.body = other.body) : step = other := by
  cases step with
  | key name =>
      cases other with
      | key _ => rw [String.toList_inj.mp hbody]
      | item _ => cases hmark
  | item index =>
      cases other with
      | key _ => cases hmark
      | item _ =>
          have hdigits := List.append_cancel_right hbody
          rw [Nat.toList_repr, Nat.toList_repr] at hdigits
          -- Digits spell one number only.
          have hindex := congrArg (Nat.ofDigitChars 10 · 0) hdigits
          rw [Nat.ofDigitChars_toDigits (by omega) (by omega),
            Nat.ofDigitChars_toDigits (by omega) (by omega)] at hindex
          rw [hindex]

theorem toList_writtenBehind_cons (step : Step) (location : Location) :
    (writtenBehind (step :: location)).toList
      = step.mark :: (step.body ++ (writtenBehind location).toList) := by
  rw [writtenBehind, String.toList_append, step.toList_written, List.cons_append]

-- Behind a step there is either nothing or the mark of the next one.
theorem takeWhile_writtenBehind (location : Location) :
    (writtenBehind location).toList.takeWhile (fun c => !isMark c) = [] := by
  cases location with
  | nil => rfl
  | cons step location =>
      rw [toList_writtenBehind_cons, List.takeWhile_cons_of_neg]
      rw [step.isMark_mark]
      exact Bool.false_ne_true

/-- The body of the first step reaches up to the next mark. -/
theorem takeWhile_body_append {step : Step} (h : step.IsPlain) (location : Location) :
    (step.body ++ (writtenBehind location).toList).takeWhile (fun c => !isMark c)
      = step.body := by
  rw [List.takeWhile_append_of_pos, takeWhile_writtenBehind, List.append_nil]
  intro c hc
  rw [h.isMark_body c hc, Bool.not_false]

/-- Plain steps can be read off what is written of them. -/
theorem writtenBehind_injective {location other : Location}
    (hplain : IsPlain location) (hother : IsPlain other)
    (heq : writtenBehind location = writtenBehind other) : location = other := by
  induction location generalizing other with
  | nil =>
      cases other with
      | nil => rfl
      | cons step other =>
          have hlist := congrArg String.toList heq
          rw [toList_writtenBehind_cons] at hlist
          cases hlist
  | cons step location ih =>
      cases other with
      | nil =>
          have hlist := congrArg String.toList heq
          rw [toList_writtenBehind_cons] at hlist
          cases hlist
      | cons next other =>
          rw [isPlain_cons] at hplain hother
          have hlist := congrArg String.toList heq
          rw [toList_writtenBehind_cons, toList_writtenBehind_cons, List.cons.injEq] at hlist
          rcases hlist with ⟨hmark, hrest⟩
          -- The first steps end at the same mark, so what is behind them is the same too.
          have hbody := congrArg (List.takeWhile fun c => !isMark c) hrest
          rw [takeWhile_body_append hplain.1, takeWhile_body_append hother.1] at hbody
          rw [hbody] at hrest
          have hbehind := String.toList_inj.mp (List.append_cancel_left hrest)
          rw [Step.eq_of_mark_of_body hmark hbody, ih hplain.2 hother.2 hbehind]

/-- A path with a dot in front of it if its first step is a key. -/
theorem writtenBehind_cons_key (name : String) (location : Location) :
    writtenBehind (.key name :: location) = "." ++ dotted (.key name :: location) := by
  rw [writtenBehind, dotted, Step.written, String.append_assoc]

theorem dotted_cons_item (index : Nat) (location : Location) :
    dotted (.item index :: location) = writtenBehind (.item index :: location) := rfl

-- A plain key does not start with a mark, so a path shows whether its first step is one.
theorem head?_dotted_key {name : String} (h : IsPlainKey name) (location : Location) :
    ∃ c, (dotted (.key name :: location)).toList.head? = some c ∧ isMark c = false := by
  rcases h with ⟨hname, hplain⟩
  rw [dotted, String.toList_append]
  cases hlist : name.toList with
  | nil => exact absurd (String.toList_inj.mp (hlist.trans String.toList_empty.symm)) hname
  | cons c rest =>
      rw [hlist] at hplain
      exact ⟨c, rfl, hplain c List.mem_cons_self⟩

theorem dotted_key_ne_item {name : String} (h : IsPlainKey name) (index : Nat)
    (location other : Location) :
    dotted (.key name :: location) ≠ dotted (.item index :: other) := by
  intro heq
  rcases head?_dotted_key h location with ⟨c, hc, hmark⟩
  rw [heq, dotted_cons_item, toList_writtenBehind_cons, List.head?_cons, Option.some.injEq] at hc
  rw [← hc] at hmark
  cases hmark

theorem dotted_eq_empty_iff {location : Location} (hplain : IsPlain location) :
    dotted location = "" ↔ location = [] := by
  constructor
  · intro hempty
    cases location with
    | nil => rfl
    | cons step location =>
        cases step with
        | key name =>
            rcases head?_dotted_key (hplain _ List.mem_cons_self) location with ⟨c, hc, -⟩
            rw [hempty] at hc
            cases hc
        | item index =>
            have hlist := congrArg String.toList hempty
            rw [dotted_cons_item, toList_writtenBehind_cons] at hlist
            cases hlist
  · rintro rfl
    rfl

/-- Locations with plain keys have different paths. -/
theorem dotted_injective {location other : Location}
    (hplain : IsPlain location) (hother : IsPlain other)
    (heq : dotted location = dotted other) : location = other := by
  cases location with
  | nil => exact ((dotted_eq_empty_iff hother).mp heq.symm).symm
  | cons step location =>
      cases other with
      | nil => exact (dotted_eq_empty_iff hplain).mp heq
      | cons next other =>
          refine writtenBehind_injective hplain hother ?_
          cases step with
          | key name =>
              cases next with
              | key _ => rw [writtenBehind_cons_key, writtenBehind_cons_key, heq]
              | item _ => exact absurd heq (dotted_key_ne_item (hplain _ List.mem_cons_self) _ _ _)
          | item index =>
              cases next with
              | key _ =>
                  exact absurd heq.symm (dotted_key_ne_item (hother _ List.mem_cons_self) _ _ _)
              | item _ => exact heq

theorem writtenBehind_append (location rest : Location) :
    writtenBehind (location ++ rest) = writtenBehind location ++ writtenBehind rest := by
  induction location with
  | nil => rw [List.nil_append, writtenBehind, String.empty_append]
  | cons step location ih =>
      rw [List.cons_append, writtenBehind, writtenBehind, ih, String.append_assoc]

theorem dotted_append {location : Location} (hlocation : location ≠ []) (rest : Location) :
    dotted (location ++ rest) = dotted location ++ writtenBehind rest := by
  cases location with
  | nil => exact absurd rfl hlocation
  | cons step location =>
      cases step with
      | key name =>
          rw [List.cons_append, dotted, dotted, writtenBehind_append, String.append_assoc]
      | item index =>
          rw [List.cons_append, dotted_cons_item, dotted_cons_item, ← List.cons_append,
            writtenBehind_append]

theorem dotted_singleton_key (name : String) : dotted [.key name] = name := String.append_empty

/-- The path of a key below a location. -/
theorem dotted_concat_key {location : Location} (hplain : IsPlain location)
    (key : String) : dotted (location ++ [.key key]) = keyPath (dotted location) key := by
  unfold keyPath
  by_cases hlocation : location = []
  · rw [if_pos ((dotted_eq_empty_iff hplain).mpr hlocation), hlocation]
    exact String.append_empty
  · rw [if_neg (mt (dotted_eq_empty_iff hplain).mp hlocation), dotted_append hlocation,
      String.append_assoc]
    exact congrArg _ String.append_empty

/-- The path of an item below a location. -/
theorem dotted_concat_item {location : Location} (hlocation : location ≠ []) (index : Nat) :
    dotted (location ++ [.item index]) = itemPath (dotted location) index := by
  rw [dotted_append hlocation, itemPath, String.append_assoc, String.append_assoc]
  exact congrArg _ (String.append_empty.trans (String.append_assoc ..))

end Paths

section Following

/-- A location is followed in parts. -/
theorem valueAt?_append (value : Value) (location rest : Location) :
    valueAt? value (location ++ rest) = (valueAt? value location).bind (valueAt? · rest) := by
  induction location generalizing value with
  | nil => rfl
  | cons step location ih =>
      rw [List.cons_append, valueAt?, valueAt?, Option.bind_assoc]
      exact congrArg _ (funext fun found => ih found)

theorem valueAt?_key (value : Value) (key : String) : valueAt? value [.key key] = value.get? key :=
  Option.bind_fun_some _

theorem valueAt?_concat_key {root value : Value} {location : Location}
    (hvalue : valueAt? root location = some value) (key : String) :
    valueAt? root (location ++ [.key key]) = value.get? key := by
  rw [valueAt?_append, hvalue, Option.bind_some, valueAt?_key]

/-- The items of an array are at its location, one behind the other. -/
theorem valueAt?_concat_item (root : Value) (location : Location) (index : Nat) :
    valueAt? root (location ++ [.item index]) = (itemsOf root location)[index]? := by
  rw [valueAt?_append, itemsOf]
  cases valueAt? root location with
  | none => rfl
  | some value =>
      change (value.items?.bind fun items => items[index]?).bind some = _
      rw [Option.bind_fun_some, Option.bind_some]
      cases value.items? <;> rfl

theorem itemsOf_concat_key {root value : Value} {location : Location}
    (hvalue : valueAt? root location = some value) (key : String) :
    itemsOf root (location ++ [.key key]) = itemsAt value key := by
  rw [itemsOf, valueAt?_concat_key hvalue, itemsAt]

end Following

section Missing

variable {root : Value}

/-- The path of the first of some locations that leads nowhere. -/
def firstAbsent (root : Value) (locations : List Location) : Option String :=
  (locations.find? (isAbsent root)).map dotted

theorem firstAbsent_append (locations rest : List Location) :
    firstAbsent root (locations ++ rest)
      = (firstAbsent root locations).or (firstAbsent root rest) := by
  rw [firstAbsent, List.find?_append, Option.map_or]
  rfl

/-- The first missing key of the object at a location. -/
theorem missingKey?_eq {value : Value} {location : Location}
    (hvalue : valueAt? root location = some value) (hplain : IsPlain location)
    (keys : List String) :
    missingKey? value (dotted location) keys = firstAbsent root (keysBelow location keys) := by
  have habsent : (fun key => (value.get? key).isNone)
      = isAbsent root ∘ fun key => location ++ [.key key] := by
    funext key
    rw [Function.comp_apply, isAbsent, valueAt?_concat_key hvalue]
  have hpath : keyPath (dotted location) = dotted ∘ fun key => location ++ [.key key] :=
    funext fun key => (dotted_concat_key hplain key).symm
  rw [firstAbsent, keysBelow, List.find?_map, Option.map_map, ← habsent, ← hpath, missingKey?]

/-- The first thing that a check finds in some items, numbered from `index`. -/
def firstFound (check : Value → Nat → Option String) : (index : Nat) → List Value → Option String
  | _, [] => none
  | index, item :: items => (check item index).or (firstFound check (index + 1) items)

theorem missingInGroups_eq_firstFound (path : String) (index : Nat) (groups : List Value) :
    missingInGroups path index groups
      = firstFound (fun group index =>
        missingKey? group (itemPath (keyPath path "groups") index) ["name", "member"])
        index groups := by
  induction groups generalizing index with
  | nil => rfl
  | cons group groups ih => rw [missingInGroups, firstFound, ih]

theorem missingInFields_eq_firstFound (index : Nat) (fields : List Value) :
    missingInFields index fields
      = firstFound (fun field index =>
        (missingKey? field (itemPath "fields" index) ["name", "type"]).or
          (missingInGroups (itemPath "fields" index) 0 (itemsAt field "groups")))
        index fields := by
  induction fields generalizing index with
  | nil => rfl
  | cons field fields ih => rw [missingInFields, firstFound, ih]

/-- The first missing key of some items, if that of every single one is the first of
    some locations that leads nowhere. -/
theorem firstFound_eq {check : Value → Nat → Option String} {locations : Nat → List Location}
    {items : List Value} {start : Nat}
    (hcheck : ∀ item index, items[index]? = some item →
      check item (start + index) = firstAbsent root (locations (start + index))) :
    firstFound check start items
      = firstAbsent root ((List.range' start items.length).flatMap locations) := by
  induction items generalizing start with
  | nil => rfl
  | cons item items ih =>
      have hrest : ∀ other index, items[index]? = some other →
          check other (start + 1 + index) = firstAbsent root (locations (start + 1 + index)) := by
        intro other index hother
        rw [Nat.add_assoc, Nat.add_comm 1]
        exact hcheck other (index + 1) hother
      rw [firstFound, List.length_cons, List.range'_succ, List.flatMap_cons, firstAbsent_append,
        ih hrest]
      congr 1
      exact hcheck item 0 rfl

/-- The first missing key of the tags of a field. -/
theorem missingInGroups_eq {field : Value} {location : Location}
    (hfield : valueAt? root location = some field) (hplain : IsPlain location) :
    missingInGroups (dotted location) 0 (itemsAt field "groups")
      = firstAbsent root (tagLocations root location) := by
  have hgroups : IsPlain (location ++ [.key "groups"]) :=
    isPlain_append.mpr ⟨hplain, isPlain_key (by decide)⟩
  rw [missingInGroups_eq_firstFound, tagLocations, itemsOf_concat_key hfield,
    List.range_eq_range']
  refine firstFound_eq fun group index hgroup => ?_
  have hvalue : valueAt? root (location ++ [.key "groups"] ++ [.item index]) = some group := by
    rw [valueAt?_concat_item, itemsOf_concat_key hfield, hgroup]
  rw [Nat.zero_add, ← dotted_concat_key hplain,
    ← dotted_concat_item (List.append_ne_nil_of_right_ne_nil _ (List.cons_ne_nil _ _)),
    missingKey?_eq hvalue (isPlain_append.mpr ⟨hgroups, isPlain_item index⟩), List.append_assoc]
  rfl

/-- The first missing key of the fields of a spec. -/
theorem missingInFields_eq :
    missingInFields 0 (itemsAt root "fields") = firstAbsent root (fieldLocations root) := by
  have hitems : itemsOf root [.key "fields"] = itemsAt root "fields" :=
    @itemsOf_concat_key root root [] rfl "fields"
  rw [missingInFields_eq_firstFound, fieldLocations, hitems, List.range_eq_range']
  refine firstFound_eq fun field index hfield => ?_
  have hvalue : valueAt? root [.key "fields", .item index] = some field := by
    rw [← hfield, ← hitems]
    exact valueAt?_concat_item root [.key "fields"] index
  have hindex : IsPlain [.key "fields", .item index] :=
    isPlain_cons.mpr ⟨(by decide : IsPlainKey "fields"), isPlain_item index⟩
  have hpath : dotted [.key "fields", .item index] = itemPath "fields" index := by
    have hconcat := dotted_concat_item (List.cons_ne_nil (.key "fields") []) index
    rwa [dotted_singleton_key] at hconcat
  rw [Nat.zero_add, firstAbsent_append, ← hpath, missingKey?_eq hvalue hindex,
    missingInGroups_eq hvalue hindex]

/-- The first missing key of the section of a language. -/
theorem missingInSection_eq (language : Language) (hplain : IsPlainKey language.name)
    (keys : List String) :
    missingInSection root language keys
      = firstAbsent root (sectionLocations root language.name keys) := by
  have hlang : IsPlain [.key "lang"] := isPlain_key (by decide)
  have hlocation : IsPlain [.key "lang", .key language.name] :=
    isPlain_append.mpr ⟨hlang, isPlain_key hplain⟩
  have hpath : dotted [.key "lang", .key language.name] = keyPath "lang" language.name := by
    have hconcat := dotted_concat_key hlang language.name
    rwa [dotted_singleton_key] at hconcat
  have hvalue : valueAt? root [.key "lang", .key language.name]
      = (root.get? "lang").bind (Data.get? · language.name) := by
    have hname : (valueAt? · [.key language.name]) = (Data.get? · language.name) :=
      funext fun lang => valueAt?_key lang language.name
    rw [valueAt?, hname]
    rfl
  rw [missingInSection, ← hvalue, ← hpath, sectionLocations, isAbsent]
  cases hfound : valueAt? root [.key "lang", .key language.name] with
  | none => rfl
  | some found => exact missingKey?_eq hfound hlocation keys

/-- The first missing key of a spec is the first of the required ones whose location
    leads nowhere. -/
theorem firstMissing_eq (value : Value) :
    firstMissing value = firstAbsent value (requiredLocations value) := by
  have hown : missingKey? value "" ["outDir", "lang", "fields"]
      = firstAbsent value (keysBelow [] ["outDir", "lang", "fields"]) :=
    missingKey?_eq rfl isPlain_nil _
  have hphp : missingInSection value .php ["namespace", "clazz"]
      = firstAbsent value (sectionLocations value "php" ["namespace", "clazz"]) :=
    missingInSection_eq .php (by decide) _
  have hts : missingInSection value .ts ["clazz"]
      = firstAbsent value (sectionLocations value "ts" ["clazz"]) :=
    missingInSection_eq .ts (by decide) _
  rw [firstMissing, hown, hphp, hts, missingInFields_eq, requiredLocations, firstAbsent_append,
    firstAbsent_append, firstAbsent_append]

end Missing

section Required

theorem isPlain_of_mem_keysBelow {location found : Location} {keys : List String}
    (hlocation : IsPlain location) (hkeys : ∀ key ∈ keys, IsPlainKey key)
    (hfound : found ∈ keysBelow location keys) : IsPlain found := by
  rcases List.mem_map.mp hfound with ⟨key, hkey, rfl⟩
  exact isPlain_append.mpr ⟨hlocation, isPlain_key (hkeys key hkey)⟩

theorem isPlain_of_mem_sectionLocations {value : Value} {name : String} {keys : List String}
    {location : Location} (hname : IsPlainKey name) (hkeys : ∀ key ∈ keys, IsPlainKey key)
    (hlocation : location ∈ sectionLocations value name keys) : IsPlain location := by
  rw [sectionLocations] at hlocation
  split at hlocation
  · cases hlocation
  · have hlang : IsPlain [.key "lang", .key name] :=
      isPlain_cons.mpr ⟨(by decide : IsPlainKey "lang"), isPlain_key hname⟩
    exact isPlain_of_mem_keysBelow hlang hkeys hlocation

theorem isPlain_of_mem_fieldLocations {value : Value} {location : Location}
    (hlocation : location ∈ fieldLocations value) : IsPlain location := by
  rcases List.mem_flatMap.mp hlocation with ⟨index, _, hlocation⟩
  have hfield : IsPlain [.key "fields", .item index] :=
    isPlain_cons.mpr ⟨(by decide : IsPlainKey "fields"), isPlain_item index⟩
  rcases List.mem_append.mp hlocation with hown | htag
  · exact isPlain_of_mem_keysBelow hfield (by decide) hown
  · rcases List.mem_flatMap.mp htag with ⟨index, _, htag⟩
    have hgroup : IsPlain [.key "groups", .item index] :=
      isPlain_cons.mpr ⟨(by decide : IsPlainKey "groups"), isPlain_item index⟩
    exact isPlain_of_mem_keysBelow (isPlain_append.mpr ⟨hfield, hgroup⟩) (by decide) htag

/-- No required key has a mark in its name. -/
theorem isPlain_of_mem_requiredLocations {value : Value} {location : Location}
    (hlocation : location ∈ requiredLocations value) : IsPlain location := by
  rw [requiredLocations, List.mem_append, List.mem_append, List.mem_append] at hlocation
  rcases hlocation with ((hown | hphp) | hts) | hfield
  · exact isPlain_of_mem_keysBelow isPlain_nil (by decide) hown
  · exact isPlain_of_mem_sectionLocations (by decide) (by decide) hphp
  · exact isPlain_of_mem_sectionLocations (by decide) (by decide) hts
  · exact isPlain_of_mem_fieldLocations hfield

end Required

/-- What is reported as missing is the first required location that leads nowhere. -/
theorem ofValue_eq_missingKey_iff {value : Value} {path : String} :
    ofValue value = .error (.missingKey path) ↔
      ∃ location, (requiredLocations value).find? (isAbsent value) = some location ∧
        dotted location = path := by
  rw [← Option.map_eq_some_iff, ← firstAbsent, ← firstMissing_eq]
  rcases ofValue_cases value with ⟨found, hmissing, h⟩ | ⟨hmissing, -, h⟩ | ⟨_, hmissing, -, h⟩
  · rw [h, hmissing, Except.error.injEq, SpecError.missingKey.injEq, Option.some.injEq]
  · simp only [h, hmissing, Except.error.injEq, reduceCtorEq]
  · simp only [h, hmissing, reduceCtorEq]

/-- A missing key is reported exactly if some required location leads nowhere,
    whatever else is wrong with the value, and then it is the first such location,
    by its path. No two required locations, of this or of any other value, have the
    same path. -/
theorem missing_key_is_first_absent (value : Value) :
    (∀ path, ofValue value = .error (.missingKey path) ↔
      ∃ location, (requiredLocations value).find? (isAbsent value) = some location ∧
        dotted location = path) ∧
      ((∃ path, ofValue value = .error (.missingKey path)) ↔
        ∃ location ∈ requiredLocations value, valueAt? value location = none) ∧
      ∀ other, ∀ location ∈ requiredLocations value, ∀ location' ∈ requiredLocations other,
        dotted location = dotted location' → location = location' := by
  refine ⟨fun path => ofValue_eq_missingKey_iff, ?_, ?_⟩
  · have hfind : (∃ path, ofValue value = .error (.missingKey path)) ↔
        ((requiredLocations value).find? (isAbsent value)).isSome := by
      simp only [ofValue_eq_missingKey_iff, Option.isSome_iff_exists]
      constructor
      · rintro ⟨_, location, hfound, _⟩
        exact ⟨location, hfound⟩
      · rintro ⟨location, hfound⟩
        exact ⟨_, location, hfound, rfl⟩
    rw [hfind, List.find?_isSome]
    simp only [isAbsent, Option.isNone_iff_eq_none]
  · intro other location hlocation location' hlocation'
    exact dotted_injective (isPlain_of_mem_requiredLocations hlocation)
      (isPlain_of_mem_requiredLocations hlocation')

/-- A value in which much is of the wrong kind and two keys are missing. -/
theorem missing_key_is_first_absent_in_tag :
    let value : Value := .object
      [ .member "fields" (.array
          [ .object [.member "type" (.bool true), .member "name" .null, .member "groups" .null],
            .object [textMember "name" "id", textMember "type" "string",
              .member "groups" (.array [.object [textMember "name" "row"], .null])] ]),
        .member "lang" (.array []),
        .member "outDir" .null ]
    (∃ location, (requiredLocations value).find? (isAbsent value) = some location ∧
      dotted location = "fields[1].groups[0].member") ∧
      ∀ location ∈ requiredLocations value, ∀ location' ∈ requiredLocations value,
        dotted location = dotted location' → location = location' := by
  intro value
  have hread : ofValue value = .error (.missingKey "fields[1].groups[0].member") := by decide
  have hfirst := missing_key_is_first_absent value
  exact ⟨(hfirst.1 _).mp hread, hfirst.2.2 value⟩

end Spec

end ClassForge
