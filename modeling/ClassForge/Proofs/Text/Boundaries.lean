import Mathlib.Data.List.Infix

/-!
# Where Texts End

Texts that are put one behind another can be told apart again if it is clear where each of
them ends. There are two reasons for that. A word ends where a character follows that
stands in no word. A text in front of a mark ends where the mark stands for the first
time, if the mark cannot begin in the text and go on behind it.

If it is clear for single texts, it is clear for lists of them with a comma behind all but
the last one: after each text a comma says that there is another.

## Main definitions

* `Told`: Items whose texts can be told apart.
* `Endings`: What may close lists of items.

## Theorems

* `word_append_inj`: Words that are followed by something else.
* `append_mark_inj`: Texts in front of a mark.
* `separated_inj`: Texts behind a comma each.
* `intercalate_append_inj`: Texts with a comma between them.
-/

namespace ClassForge

namespace Text

/-- Words can be told apart if something follows them that stands in no word. -/
theorem word_append_inj {inWord : Char → Bool} {first second rest later : List Char}
    (hfirst : ∀ c ∈ first, inWord c = true) (hsecond : ∀ c ∈ second, inWord c = true)
    (hrest : ∀ c ∈ rest.head?, inWord c = false) (hlater : ∀ c ∈ later.head?, inWord c = false)
    (h : first ++ rest = second ++ later) : first = second ∧ rest = later := by
  have hword : ∀ {word rest : List Char}, (∀ c ∈ word, inWord c = true) →
      (∀ c ∈ rest.head?, inWord c = false) → (word ++ rest).takeWhile inWord = word := by
    intro word rest hword hrest
    rw [List.takeWhile_append_of_pos hword]
    cases rest with
    | nil => rw [List.takeWhile_nil, List.append_nil]
    | cons c rest =>
        have hc : ¬ inWord c = true := by simp [hrest c rfl]
        rw [List.takeWhile_cons_of_neg hc, List.append_nil]
  have hsame : first = second := by
    rw [← hword hfirst hrest, h, hword hsecond hlater]
  subst hsame
  exact ⟨rfl, List.append_cancel_left h⟩

/-- A mark that starts with a sign and does not repeat it. What stands in front of the mark
    goes no further than the first place where the mark stands. -/
theorem isPrefix_of_append_mark {sign : Char} {tail : List Char} (hsign : sign ∉ tail)
    {first second rest later : List Char} (hfirst : ¬ sign :: tail <:+: first)
    (h : first ++ sign :: (tail ++ rest) = second ++ sign :: (tail ++ later)) :
    first <+: second := by
  rcases List.append_eq_append_iff.mp h with ⟨gap, hsecond, -⟩ | ⟨gap, hgap, hrest⟩
  · exact ⟨gap, hsecond.symm⟩
  · cases gap with
    | nil => rw [hgap, List.append_nil]
    | cons c gap =>
        exfalso
        rw [List.cons_append, List.cons.injEq] at hrest
        rcases hrest with ⟨rfl, hrest⟩
        rcases List.append_eq_append_iff.mp hrest with
          ⟨excess, hexcess, -⟩ | ⟨excess, htail, hexcess⟩
        · -- The second mark is complete inside of the first text.
          exact hfirst ⟨second, excess, by simp [hgap, hexcess]⟩
        · -- It goes on where the first mark starts, so it repeats the sign.
          cases excess with
          | nil => exact hfirst ⟨second, [], by simp [hgap, htail]⟩
          | cons d excess =>
              rw [List.cons_append, List.cons.injEq] at hexcess
              rw [htail, hexcess.1] at hsign
              exact hsign (List.mem_append_right _ List.mem_cons_self)

/-- Texts without the mark can be told apart in front of it. -/
theorem append_mark_inj {sign : Char} {tail : List Char} (hsign : sign ∉ tail)
    {first second rest later : List Char} (hfirst : ¬ sign :: tail <:+: first)
    (hsecond : ¬ sign :: tail <:+: second)
    (h : first ++ sign :: (tail ++ rest) = second ++ sign :: (tail ++ later)) :
    first = second ∧ rest = later := by
  have hle := isPrefix_of_append_mark hsign hfirst h
  have hge := isPrefix_of_append_mark hsign hsecond h.symm
  have hsame : first = second := hle.eq_of_length (Nat.le_antisymm hle.length_le hge.length_le)
  subst hsame
  rw [List.append_cancel_left_eq, List.cons.injEq, List.append_cancel_left_eq] at h
  exact ⟨rfl, h.2⟩

section Lists

variable {α : Type} {spell : α → String} {follows : List Char → Prop}

/-- Two items that can be told apart by their texts, also from what follows them, as long as
    that is of some kind. -/
def Told (spell : α → String) (follows : List Char → Prop) (item other : α) : Prop :=
  ∀ {rest later : List Char}, follows rest → follows later →
    (spell item).toList ++ rest = (spell other).toList ++ later → item = other ∧ rest = later

/-- What may close two lists. It starts alike and not with a comma. -/
structure Endings (follows : List Char → Prop) (closing ending : List Char) : Prop where
  follows_closing : follows closing
  follows_ending : follows ending
  head_eq : ending.head? = closing.head?
  head_ne_comma : closing.head? ≠ some ','

theorem follows_separated (hcomma : ∀ rest, follows (',' :: rest)) (gap : List Char)
    (items : List α) {closing : List Char} (hclosing : follows closing) :
    follows ((items.flatMap fun item => ',' :: gap ++ (spell item).toList) ++ closing) := by
  cases items with
  | nil => exact hclosing
  | cons item items => exact hcomma _

/-- Items behind a comma each, and what closes them. -/
theorem separated_inj (hcomma : ∀ rest, follows (',' :: rest)) {gap : List Char}
    {first second : List α}
    (htold : ∀ item ∈ first, ∀ other ∈ second, Told spell follows item other)
    {closing ending : List Char} (hends : Endings follows closing ending)
    (h : (first.flatMap fun item => ',' :: gap ++ (spell item).toList) ++ closing
      = (second.flatMap fun item => ',' :: gap ++ (spell item).toList) ++ ending) :
    first = second ∧ closing = ending := by
  induction first generalizing second with
  | nil =>
      cases second with
      | nil => exact ⟨rfl, h⟩
      | cons other second =>
          rw [List.flatMap_nil, List.nil_append] at h
          exact absurd (congrArg List.head? h) hends.head_ne_comma
  | cons item first ih =>
      cases second with
      | nil =>
          rw [List.flatMap_nil, List.nil_append] at h
          exact absurd ((congrArg List.head? h).trans hends.head_eq).symm hends.head_ne_comma
      | cons other second =>
          simp only [List.forall_mem_cons] at htold
          simp only [List.flatMap_cons, List.append_assoc, List.append_cancel_left_eq] at h
          rcases htold.1.1 (follows_separated hcomma gap first hends.follows_closing)
            (follows_separated hcomma gap second hends.follows_ending) h with ⟨rfl, hrest⟩
          rcases ih (fun item hitem => (htold.2 item hitem).2) hrest with ⟨rfl, hsame⟩
          exact ⟨rfl, hsame⟩

theorem toList_intercalate_cons (separator text : String) (texts : List String) :
    (separator.intercalate (text :: texts)).toList
      = text.toList ++ texts.flatMap fun text => separator.toList ++ text.toList := by
  induction texts generalizing text with
  | nil => rw [String.intercalate_singleton, List.flatMap_nil, List.append_nil]
  | cons next texts ih =>
      rw [String.intercalate_cons_cons, String.toList_append, String.toList_append, ih,
        List.flatMap_cons, List.append_assoc, List.append_assoc]

/-- Items with a comma between them, and what closes them. No item starts as the closing
    does, so it is clear as well whether there are any. -/
theorem intercalate_append_inj (hcomma : ∀ rest, follows (',' :: rest)) {separator : String}
    {gap : List Char} (hseparator : separator.toList = ',' :: gap) {first second : List α}
    (htold : ∀ item ∈ first, ∀ other ∈ second, Told spell follows item other)
    {closing ending : List Char} (hends : Endings follows closing ending)
    (hstarts : ∀ item ∈ first ++ second, ∀ rest,
      ((spell item).toList ++ rest).head? ≠ closing.head?)
    (h : (separator.intercalate (first.map spell)).toList ++ closing
      = (separator.intercalate (second.map spell)).toList ++ ending) :
    first = second ∧ closing = ending := by
  cases first with
  | nil =>
      cases second with
      | nil => exact ⟨rfl, h⟩
      | cons other second =>
          rw [List.map_cons, toList_intercalate_cons, List.append_assoc] at h
          exact absurd (congrArg List.head? h).symm (hstarts other (by simp) _)
  | cons item first =>
      cases second with
      | nil =>
          rw [List.map_cons, toList_intercalate_cons, List.append_assoc] at h
          exact absurd ((congrArg List.head? h).trans hends.head_eq) (hstarts item (by simp) _)
      | cons other second =>
          simp only [List.forall_mem_cons] at htold
          -- The first items stand by themselves, and the others behind a comma each.
          simp only [List.map_cons, toList_intercalate_cons, List.flatMap_map, hseparator,
            List.append_assoc] at h
          rcases htold.1.1 (follows_separated hcomma gap first hends.follows_closing)
            (follows_separated hcomma gap second hends.follows_ending) h with ⟨rfl, hrest⟩
          rcases separated_inj hcomma (fun item hitem => (htold.2 item hitem).2) hends hrest with
            ⟨rfl, hsame⟩
          exact ⟨rfl, hsame⟩

end Lists

end Text

end ClassForge
