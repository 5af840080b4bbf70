import ClassForge.Proofs.Text.Indentation
import Mathlib.Data.List.Forall2

/-!
# Leading Blanks

Two texts are alike if they only differ in the blanks that their lines start
with. Said of lines this is plain: drop the blanks in front of each line and
compare. But texts are put together from pieces that do not end where lines
end, and there is no comparing two pieces line by line without knowing whether
the first of these lines started in an earlier piece.

So likeness is defined for pieces. `bared` drops leading blanks in one pass over
the characters, and is told whether it starts at the front of a line. Pieces are
alike if they are the same after both passes. Where a piece leaves the next one,
at the front of a line or not, can be read off its bared characters, so
`Alike.append` holds: likeness is kept when pieces are put together. Whole texts
that are alike have the same lines after dropping leading blanks, which is
`Alike.map_bare`.

## Main definitions

* `isBlank`, `Blank`: Spaces and tabs, and texts of nothing else.
* `bare`: A line without its leading blanks.
* `bared`: Characters without the blanks that lines start with.
* `Alike`: Pieces of text that only differ in leading blanks.

## Theorems

* `splitOn_bared`: One pass over the characters bares every line.
* `Alike.append`, `Alike.intercalate`: Putting pieces together.
* `alike_break`: A blank lead behind a line feed is a leading blank.
* `alike_indented`: Indenting only adds leading blanks.
* `Alike.map_bare`: Whole texts that are alike.
-/

namespace ClassForge

namespace Text

/-- Spaces and tabs. -/
def isBlank (c : Char) : Bool := c == ' ' || c == '\t'

/-- A text of nothing but blanks. -/
def Blank (text : String) : Prop := ∀ c ∈ text.toList, isBlank c = true

instance (text : String) : Decidable (Blank text) :=
  decidable_of_iff (text.toList.all isBlank = true) List.all_eq_true

/-- A line without its leading blanks. -/
def bare (line : String) : String := String.ofList (line.toList.dropWhile isBlank)

/-- Characters without the blanks that lines start with. A line may start with
    the first character or not. -/
def bared : Bool → List Char → List Char
  | _, [] => []
  | fresh, c :: chars =>
    if c = '\n' then '\n' :: bared true chars
    else if fresh && isBlank c then bared true chars
    else c :: bared false chars

/-- Whether a line starts behind some characters: behind a line feed, or if
    nothing came in between. -/
def freshBehind (fresh : Bool) (chars : List Char) : Bool :=
  match chars.getLast? with
  | none => fresh
  | some c => c == '\n'

section Pass

variable {c : Char} {chars : List Char}

theorem bared_lineFeed (fresh : Bool) (chars : List Char) :
    bared fresh ('\n' :: chars) = '\n' :: bared true chars := by
  rw [bared, if_pos rfl]

theorem bared_blank (hblank : isBlank c = true) : bared true (c :: chars) = bared true chars := by
  have hc : c ≠ '\n' := by
    intro hc
    rw [hc] at hblank
    exact absurd hblank (by decide)
  rw [bared, if_neg hc, hblank, if_pos (by decide)]

theorem bared_keep {fresh : Bool} (hc : c ≠ '\n') (hkeep : (fresh && isBlank c) = false) :
    bared fresh (c :: chars) = c :: bared false chars := by
  rw [bared, if_neg hc, hkeep, if_neg Bool.false_ne_true]

theorem freshBehind_cons (fresh : Bool) (c : Char) (chars : List Char) :
    freshBehind fresh (c :: chars) = freshBehind (c == '\n') chars := by
  unfold freshBehind
  cases chars with
  | nil => rfl
  | cons next chars => rw [List.getLast?_cons_cons]; rfl

/-- The pass over the second of two pieces starts where the bared first piece
    ends. -/
theorem bared_append (fresh : Bool) (chars rest : List Char) :
    bared fresh (chars ++ rest)
      = bared fresh chars ++ bared (freshBehind fresh (bared fresh chars)) rest := by
  induction chars generalizing fresh with
  | nil => rfl
  | cons c chars ih =>
      rw [List.cons_append]
      by_cases hc : c = '\n'
      · rw [hc, bared_lineFeed, bared_lineFeed, ih, freshBehind_cons]
        rfl
      by_cases hblank : (fresh && isBlank c) = true
      · -- A blank that is dropped leaves no trace, so the line is still fresh.
        rw [Bool.and_eq_true] at hblank
        rw [hblank.1, bared_blank hblank.2, bared_blank hblank.2, ih]
      · have hkeep := Bool.eq_false_iff.mpr hblank
        rw [bared_keep hc hkeep, bared_keep hc hkeep, ih, freshBehind_cons,
          beq_eq_false_iff_ne.mpr hc]
        rfl

theorem bared_eq_nil_iff (chars : List Char) : bared false chars = [] ↔ chars = [] := by
  constructor
  · intro hnil
    cases chars with
    | nil => rfl
    | cons c chars =>
        by_cases hc : c = '\n'
        · rw [hc, bared_lineFeed] at hnil
          exact absurd hnil (List.cons_ne_nil _ _)
        · rw [bared_keep hc (Bool.false_and _)] at hnil
          exact absurd hnil (List.cons_ne_nil _ _)
  · intro hnil
    rw [hnil, bared]

theorem bared_of_blank (hblank : ∀ c ∈ chars, isBlank c = true) : bared true chars = [] := by
  induction chars with
  | nil => rfl
  | cons c chars ih =>
      rw [bared_blank (hblank c List.mem_cons_self)]
      exact ih fun d hd => hblank d (List.mem_cons_of_mem c hd)

/-- One pass over the characters bares every line, the first one only if it
    starts there. -/
theorem splitOn_bared (fresh : Bool) (chars first : List Char) (rest : List (List Char))
    (hlines : chars.splitOn '\n' = first :: rest) :
    (bared fresh chars).splitOn '\n'
      = (if fresh then first.dropWhile isBlank else first)
        :: rest.map (List.dropWhile isBlank) := by
  -- The flag is part of the induction: it says whether the first line has only had blanks so far.
  induction chars generalizing fresh first rest with
  | nil =>
      rw [List.splitOn_nil, List.cons.injEq] at hlines
      rw [← hlines.1, ← hlines.2, bared, List.splitOn_nil, List.map_nil]
      cases fresh <;> rfl
  | cons c chars ih =>
      rcases hsplit : chars.splitOn '\n' with _ | ⟨line, others⟩
      · exact absurd hsplit (List.splitOn_ne_nil _ _)
      rw [List.splitOn_cons_eq_if_modifyHead, hsplit] at hlines
      by_cases hc : c = '\n'
      · -- The line feed ends an empty first line, and a line starts behind it.
        rw [if_pos (by rw [hc, beq_self_eq_true]), List.cons.injEq] at hlines
        rw [hc, bared_lineFeed, List.splitOn_cons_eq_if_modifyHead, if_pos (by decide),
          ih true line others hsplit, ← hlines.1, ← hlines.2, List.map_cons, if_pos rfl]
        cases fresh <;> rfl
      rw [if_neg (by rw [beq_iff_eq]; exact hc), List.modifyHead_cons, List.cons.injEq] at hlines
      by_cases hblank : (fresh && isBlank c) = true
      · rw [Bool.and_eq_true] at hblank
        rw [hblank.1, bared_blank hblank.2, ih true line others hsplit, ← hlines.1, ← hlines.2,
          if_pos rfl, if_pos rfl, List.dropWhile_cons_of_pos hblank.2]
      · -- From the first character on that is kept, the line is left alone.
        have hkeep := Bool.eq_false_iff.mpr hblank
        rw [bared_keep hc hkeep, List.splitOn_cons_eq_if_modifyHead,
          if_neg (by rw [beq_iff_eq]; exact hc), ih false line others hsplit, List.modifyHead_cons,
          ← hlines.1, ← hlines.2, if_neg Bool.false_ne_true]
        cases fresh with
        | false => rfl
        | true =>
            rw [Bool.true_and] at hkeep
            rw [if_pos rfl, List.dropWhile_cons_of_neg (by rw [hkeep]; exact Bool.false_ne_true)]

end Pass

/-- Pieces of text that only differ in the blanks that lines start with,
    whether or not a line starts with the piece. -/
def Alike (text other : String) : Prop :=
  ∀ fresh, bared fresh text.toList = bared fresh other.toList

section Likeness

variable {lead text other rest : String}

theorem Alike.refl (text : String) : Alike text text := fun _ => rfl

theorem Alike.symm (h : Alike text other) : Alike other text := fun fresh => (h fresh).symm

theorem Alike.trans (h : Alike text other) (hrest : Alike other rest) : Alike text rest :=
  fun fresh => (h fresh).trans (hrest fresh)

/-- Likeness is kept when pieces are put together. -/
theorem Alike.append {text' other' : String} (h : Alike text text') (hother : Alike other other') :
    Alike (text ++ other) (text' ++ other') := by
  intro fresh
  rw [String.toList_append, String.toList_append, bared_append, bared_append, h fresh,
    hother]

theorem Alike.intercalate (separator : String) {texts others : List String}
    (h : List.Forall₂ Alike texts others) :
    Alike (separator.intercalate texts) (separator.intercalate others) := by
  induction h with
  | nil => exact Alike.refl _
  | @cons text other texts others hfirst hrest ih =>
      cases hrest with
      | nil => rwa [String.intercalate_singleton, String.intercalate_singleton]
      | cons hsecond hrest =>
          rw [String.intercalate_cons_cons, String.intercalate_cons_cons]
          exact (hfirst.append (Alike.refl separator)).append ih

theorem Alike.intercalate_map {ι : Type} (separator : String) {textOf otherOf : ι → String}
    {items : List ι} (h : ∀ item ∈ items, Alike (textOf item) (otherOf item)) :
    Alike (separator.intercalate (items.map textOf))
      (separator.intercalate (items.map otherOf)) := by
  refine Alike.intercalate separator ?_
  rw [List.forall₂_map_left_iff, List.forall₂_map_right_iff, List.forall₂_same]
  exact h

/-- A piece that is alike to an empty one is empty itself. -/
theorem Alike.eq_empty_iff (h : Alike text other) : text = "" ↔ other = "" := by
  rw [← String.toList_eq_nil_iff, ← String.toList_eq_nil_iff, ← bared_eq_nil_iff, h false,
    bared_eq_nil_iff]

/-- A blank lead behind a line feed is a leading blank. -/
theorem alike_break (hlead : Blank lead) : Alike ("\n" ++ lead) "\n" := by
  intro fresh
  have hchars : ("\n" ++ lead).toList = '\n' :: lead.toList := by
    rw [String.toList_append]
    rfl
  rw [hchars, bared_lineFeed, bared_of_blank hlead]
  exact (bared_lineFeed fresh []).symm

/-- Behind a line feed indenting only adds leading blanks. -/
theorem alike_indented (hlead : Blank lead) (text : String) :
    Alike ("\n" ++ indented lead text) ("\n" ++ text) := by
  by_cases htext : text = ""
  · rw [indented, if_pos htext, htext]
    exact Alike.refl _
  -- Character by character: a line feed and its lead bare to a line feed.
  have hchars : ∀ fresh (chars : List Char),
      bared fresh (chars.flatMap (leadChar lead.toList)) = bared fresh chars := by
    intro fresh chars
    induction chars generalizing fresh with
    | nil => rfl
    | cons c chars ih =>
        rw [List.flatMap_cons, bared_append, leadChar]
        by_cases hc : c = '\n'
        · rw [if_pos hc, hc, bared_lineFeed, bared_lineFeed, bared_of_blank hlead, ih]
          rfl
        · rw [if_neg hc, ih, ← bared_append]
          rfl
  intro fresh
  -- The first lead stands behind the line feed in front of the text.
  have hbreak : ("\n" ++ indented lead text).toList
      = ("\n" ++ lead).toList ++ text.toList.flatMap (leadChar lead.toList) := by
    rw [String.toList_append, toList_indented lead text htext, String.toList_append,
      List.append_assoc]
  rw [hbreak, bared_append, hchars, alike_break hlead fresh, ← bared_append,
    String.toList_append]

/-- Texts that are alike have the same lines after dropping leading blanks. -/
theorem Alike.map_bare (h : Alike text other) :
    (lines text).map bare = (lines other).map bare := by
  -- A whole text starts with a line, so one pass bares all of its lines.
  have hbare : ∀ text : String, (lines text).map bare
      = ((bared true text.toList).splitOn '\n').map String.ofList := by
    intro text
    rcases hlines : text.toList.splitOn '\n' with _ | ⟨first, others⟩
    · exact absurd hlines (List.splitOn_ne_nil _ _)
    rw [splitOn_bared true _ first others hlines, lines, hlines, if_pos rfl, List.map_map,
      ← List.map_cons, List.map_map]
    refine List.map_congr_left (fun line _ => ?_)
    rw [Function.comp_apply, Function.comp_apply, bare, String.toList_ofList]
  rw [hbare, hbare, h true]

end Likeness

end Text

end ClassForge
