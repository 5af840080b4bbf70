import Mathlib.Data.List.Infix
import ClassForge.TypeScript.Generator

/-!
# Dates That Are Written and Read

A generated class writes a date as a number and makes a date of a number that it reads.
Reading takes the number for seconds since the epoch. Writing asks the date for its
seconds, and these are the seconds within the minute. So the two fit together for the
first minute only: a date that is written and read again is moved to it.

To say so, expressions are evaluated here, as far as dates need it. Parts of them are
given as text, so that text is read first: calls of two functions, a factor of a thousand
and entries of the data. A text that says anything else has no value. Neither has a key
that cannot stand between quotes as it is, nor a member whose name is not one.

## Main definitions

* `Datum`: What expressions evaluate to.
* `Surroundings`: What they are evaluated among.
* `readTerm`, `evaluate`: Texts and expressions, evaluated.
* `rewritten`: What becomes of a value that is written and read again.

## Theorems

* `evaluate_writeEntry`: The number that is written for a date.
* `evaluate_readSlot`: The date that is made of a number.
* `rewritten_date`: Dates are moved to the first minute.
* `minute_lost`: A date that does not survive.
-/

namespace ClassForge

namespace TypeScript

open Code Spec

/-- What expressions evaluate to, as far as dates need it. -/
inductive Datum where
  | null
  | truth (value : Bool)
  | number (value : Int)
  /-- An instant, in milliseconds since the epoch. -/
  | date (milliseconds : Int)
  deriving DecidableEq

/-- The result of a method. The seconds of a date are those within its minute. -/
def Datum.call : Datum → String → Option Datum
  | .date milliseconds, "getSeconds()" => some (.number (milliseconds / 1000 % 60))
  | _, _ => none

/-- What expressions are evaluated among. -/
structure Surroundings where
  /-- The members of the object itself. -/
  member : String → Option Datum
  /-- The entries of the data that is read. -/
  entry : String → Option Datum

/-- Whether a character stands for itself between quotes. -/
def isPlain (c : Char) : Bool := c ∉ ['"', '\'', '\\', '\n', '\r']

/-- Whether a character can stand in the name of a member. -/
def isNameChar (c : Char) : Bool := c.isAlphanum || c = '_' || c = '$'

/-- Whether a text is the name of a member. -/
def isName (name : String) : Bool :=
  match name.toList with
  | [] => false
  | c :: tail => isNameChar c && !c.isDigit && tail.all isNameChar

section Evaluation

variable (surroundings : Surroundings)

/-- The value at the end of a path: a member of the object itself, and methods of it. -/
def follow (path : AccessPath) : Option Datum :=
  match path.segments.map Accessor.name with
  | "this" :: name :: calls =>
    if isName name then
      (surroundings.member name).bind fun value => calls.foldlM Datum.call value
    else none
  | _ => none

/-- A number, times a thousand if that follows. -/
def scaled (value : Int) (rest : List Char) : Datum × List Char :=
  match rest.dropPrefix? " * 1000".toList with
  | some rest => (.number (value * 1000), rest)
  | none => (.number value, rest)

/-- The value of the term that a text starts with, and what follows it. Terms may be nested
    as deep as given. -/
def readTerm : (depth : Nat) → List Char → Option (Datum × List Char)
  | 0, _ => none
  | depth + 1, chars =>
    if let some inside := chars.dropPrefix? "new Date(".toList then
      match readTerm depth inside with
      | some (.number milliseconds, ')' :: rest) => some (.date milliseconds, rest)
      | _ => none
    else if let some inside := chars.dropPrefix? "parseInt(".toList then
      match readTerm depth inside with
      | some (.number value, ')' :: rest) => some (scaled value rest)
      | _ => none
    else if let some inside := chars.dropPrefix? "json[\"".toList then
      match inside.span isPlain with
      | (key, '"' :: ']' :: rest) => (surroundings.entry (String.ofList key)).map (·, rest)
      | _ => none
    else (chars.dropPrefix? "null".toList).map (.null, ·)

/-- The key between single quotes. -/
def quoted? (text : String) : Option String :=
  match text.toList with
  | '\'' :: inside =>
    match inside.span isPlain with
    | (key, ['\'']) => some (String.ofList key)
    | _ => none
  | _ => none

/-- The value of an expression. -/
def evaluate : Expression → Option Datum
  | .raw text _ =>
    match readTerm surroundings text.length text.toList with
    | some (value, []) => some value
    | _ => none
  | .access path => follow surroundings path
  | .invoke (.named "json.hasOwnProperty") _ [.raw text _] =>
    (quoted? text).map fun key => .truth (surroundings.entry key).isSome
  | .compare .tripleEqual left right =>
    match evaluate left, evaluate right with
    | some value, some .null => some (.truth (value = .null))
    | _, _ => none
  | .conditional condition whenTrue whenFalse =>
    match evaluate condition with
    | some (.truth true) => evaluate whenTrue
    | some (.truth false) => evaluate whenFalse
    | _ => none
  | _ => none

end Evaluation

section Conversions

variable {surroundings : Surroundings}

theorem evaluate_null : evaluate surroundings .null = some .null := rfl

/-- Characters that stand for themselves, up to a quote. -/
theorem span_isPlain {key : List Char} (hkey : key.all isPlain = true) {quote : Char}
    (hquote : isPlain quote = false) (rest : List Char) :
    (key ++ quote :: rest).span isPlain = (key, quote :: rest) := by
  rw [List.all_eq_true] at hkey
  rw [List.span_eq_takeWhile_dropWhile, List.takeWhile_append_of_pos hkey,
    List.dropWhile_append_of_pos hkey]
  simp [hquote]

/-- An entry of the data. -/
theorem readTerm_entry {key : String} (hkey : key.toList.all isPlain = true) (depth : Nat)
    (rest : List Char) :
    readTerm surroundings (depth + 1) ("json[\"".toList ++ (key.toList ++ '"' :: ']' :: rest))
      = (surroundings.entry key).map (·, rest) := by
  have hdate : ("json[\"".toList ++ (key.toList ++ '"' :: ']' :: rest)).dropPrefix?
      "new Date(".toList = none := rfl
  have hparse : ("json[\"".toList ++ (key.toList ++ '"' :: ']' :: rest)).dropPrefix?
      "parseInt(".toList = none := rfl
  have hentry : ("json[\"".toList ++ (key.toList ++ '"' :: ']' :: rest)).dropPrefix?
      "json[\"".toList = some (key.toList ++ '"' :: ']' :: rest) :=
    List.dropPrefix?_append_of_beq _ BEq.rfl
  simp only [readTerm, hdate, hparse, hentry, span_isPlain hkey (by decide : isPlain '"' = false),
    String.ofList_toList]

/-- A number that is read from another term. -/
theorem readTerm_parseInt {depth : Nat} {inside rest : List Char} {value : Int}
    (h : readTerm surroundings depth inside = some (.number value, ')' :: rest)) :
    readTerm surroundings (depth + 1) ("parseInt(".toList ++ inside)
      = some (scaled value rest) := by
  have hdate : ("parseInt(".toList ++ inside).dropPrefix? "new Date(".toList = none := rfl
  have hparse : ("parseInt(".toList ++ inside).dropPrefix? "parseInt(".toList = some inside :=
    List.dropPrefix?_append_of_beq _ BEq.rfl
  simp only [readTerm, hdate, hparse, h]

/-- A date that is made of another term. -/
theorem readTerm_date {depth : Nat} {inside rest : List Char} {milliseconds : Int}
    (h : readTerm surroundings depth inside = some (.number milliseconds, ')' :: rest)) :
    readTerm surroundings (depth + 1) ("new Date(".toList ++ inside)
      = some (.date milliseconds, rest) := by
  have hdate : ("new Date(".toList ++ inside).dropPrefix? "new Date(".toList = some inside :=
    List.dropPrefix?_append_of_beq _ BEq.rfl
  simp only [readTerm, hdate, h]

/-- The date that is made of a number of seconds in the data. -/
theorem evaluate_readValue_datetime {key : String} (hkey : key.toList.all isPlain = true)
    {seconds : Int} (hentry : surroundings.entry key = some (.number seconds)) :
    evaluate surroundings (readValue "datetime" (jsonEntry key))
      = some (.date (seconds * 1000)) := by
  have hchars : ("new Date(parseInt(" ++ jsonEntry key ++ ") * 1000)").toList
      = "new Date(".toList ++ ("parseInt(".toList ++ ("json[\"".toList
        ++ (key.toList ++ '"' :: ']' :: ')' :: " * 1000)".toList))) := by
    simp only [jsonEntry, String.toList_append, List.append_assoc]
    rfl
  -- The text is longer than it is deep.
  obtain ⟨depth, hdepth⟩ : ∃ depth,
      ("new Date(parseInt(" ++ jsonEntry key ++ ") * 1000)").length = depth + 3 := by
    rw [← String.length_toList, hchars]
    exact ⟨_, rfl⟩
  have hinner : readTerm surroundings (depth + 1) ("json[\"".toList
      ++ (key.toList ++ '"' :: ']' :: ')' :: " * 1000)".toList))
        = some (.number seconds, ')' :: " * 1000)".toList) := by
    rw [readTerm_entry hkey, hentry, Option.map_some]
  have hscaled : scaled seconds " * 1000)".toList = (.number (seconds * 1000), [')']) := rfl
  have hmiddle := readTerm_parseInt hinner
  rw [hscaled] at hmiddle
  have houter := readTerm_date hmiddle
  rw [← hchars] at houter
  simp only [readValue, evaluate, hdepth, houter]

/-- Whether the data has an entry. -/
theorem evaluate_hasOwnProperty {key : String} (hkey : key.toList.all isPlain = true) :
    evaluate surroundings
        (.call "json.hasOwnProperty" .boolean [.raw ("'" ++ key ++ "'") .string])
      = some (.truth (surroundings.entry key).isSome) := by
  have hchars : ("'" ++ key ++ "'").toList = '\'' :: (key.toList ++ ['\'']) := by
    simp only [String.toList_append]
    rfl
  have hquoted : quoted? ("'" ++ key ++ "'") = some key := by
    simp only [quoted?, hchars, span_isPlain hkey (by decide : isPlain '\'' = false),
      String.ofList_toList]
  rw [Expression.call, evaluate, hquoted]
  rfl

/-- A date is made of a number of seconds that the data has under a key. -/
theorem evaluate_readSlot {entry : FieldEntry} (htype : entry.field.type = "datetime")
    (hkey : entry.key.toList.all isPlain = true) {seconds : Int}
    (hentry : surroundings.entry entry.key = some (.number seconds)) :
    evaluate surroundings (readSlot (some entry)) = some (.date (seconds * 1000)) := by
  rw [readSlot, htype, evaluate, evaluate_hasOwnProperty hkey, hentry]
  exact evaluate_readValue_datetime hkey hentry

/-- A path that starts at the object itself leads to a member and on from there. -/
theorem follow_thisAccess (className : String) {accessor : Accessor}
    (hname : isName accessor.name = true) (calls : List Accessor) :
    follow surroundings (thisAccess className (accessor :: calls))
      = (surroundings.member accessor.name).bind fun value =>
        (calls.map Accessor.name).foldlM Datum.call value := by
  change (if isName accessor.name then _ else none) = _
  rw [if_pos hname]

/-- For a date its seconds within the minute are written. -/
theorem evaluate_writeEntry (className : String) {entry : FieldEntry}
    (htype : entry.field.type = "datetime") (hname : isName entry.field.name = true)
    {milliseconds : Int}
    (hmember : surroundings.member entry.field.name = some (.date milliseconds)) :
    evaluate surroundings (writeEntry className entry).2
      = some (.number (milliseconds / 1000 % 60)) := by
  have hfield : surroundings.member (fieldAccessor entry.field).name
      = some (.date milliseconds) := hmember
  have hown : evaluate surroundings (.access (ownField className entry.field))
      = some (.date milliseconds) := by
    rw [evaluate, ownField, follow_thisAccess className hname, hfield]
    rfl
  have hguard : evaluate surroundings
      (.compare .tripleEqual (.access (ownField className entry.field)) .null)
        = some (.truth false) := by
    rw [evaluate, hown, evaluate_null]
    rfl
  have hvalue : evaluate surroundings (writeValue className entry.field)
      = some (.number (milliseconds / 1000 % 60)) := by
    rw [writeValue, if_pos htype, evaluate, follow_thisAccess className hname, hfield]
    rfl
  rw [writeEntry, evaluate, hguard]
  exact hvalue

end Conversions

/-- What becomes of the value of a field when the object is written and read again: the
    value is written among the members of the object, and what comes of it is read among
    the entries of the data. -/
def rewritten (className : String) (entry : FieldEntry) (value : Datum) : Option Datum :=
  let object : Surroundings :=
    ⟨fun name => if name = entry.field.name then some value else none, fun _ => none⟩
  (evaluate object (writeEntry className entry).2).bind fun written =>
    let data : Surroundings :=
      ⟨fun _ => none, fun key => if key = entry.key then some written else none⟩
    evaluate data (readSlot (some entry))

/-- A date of whole seconds that is written and read again is moved to the first minute. It
    survives exactly if it was there already. -/
theorem rewritten_date (className : String) {entry : FieldEntry}
    (htype : entry.field.type = "datetime") (hname : isName entry.field.name = true)
    (hkey : entry.key.toList.all isPlain = true) (seconds : Int) :
    rewritten className entry (.date (seconds * 1000)) = some (.date (seconds % 60 * 1000)) ∧
      (rewritten className entry (.date (seconds * 1000)) = some (.date (seconds * 1000)) ↔
        0 ≤ seconds ∧ seconds < 60) := by
  have hrewritten : rewritten className entry (.date (seconds * 1000))
      = some (.date (seconds % 60 * 1000)) := by
    rw [rewritten, evaluate_writeEntry className htype hname (if_pos rfl), Option.bind_some,
      evaluate_readSlot htype hkey (if_pos rfl)]
    have hwhole : seconds * 1000 / 1000 = seconds := by omega
    rw [hwhole]
  refine ⟨hrewritten, ?_⟩
  rw [hrewritten, Option.some.injEq, Datum.date.injEq]
  omega

/-- A minute and a half behind the epoch, a minute is dropped. -/
theorem rewritten_date_later :
    rewritten "Event" (.own (.plain "at" "datetime")) (.date 90000) = some (.date 30000) :=
  (@rewritten_date "Event" (.own (.plain "at" "datetime")) rfl (by decide) (by decide) 90).1

/-- A date one minute behind the epoch does not survive. -/
theorem minute_lost :
    rewritten "Event" (.own (.plain "at" "datetime")) (.date 60000) = some (.date 0) ∧
      rewritten "Event" (.own (.plain "at" "datetime")) (.date 60000) ≠ some (.date 60000) := by
  decide

end TypeScript

end ClassForge
