import ClassForge.Text.Lines

/-!
# Indented Texts

What it means to indent a text, said without the shortcuts that indenting one
takes. A non-empty text gets the lead in front of each of its lines, and an
empty text has no line to lead.

Seen character by character this is simpler still: the lead goes to the front
of the text and behind every line feed. `toList_indented` is that reading. It
needs no division into lines, so it is the one to induct on.

## Main definitions

* `indented`: A text with a lead in front of each of its lines.
* `leadChar`: What indenting makes of one character.

## Theorems

* `split_intercalate`: Texts that are put together are told apart again.
* `separator_notMem_splitOn`: What stands between separators holds none.
* `lines_break`, `lines_joined`: The lines of texts that are put together by line feeds.
* `leadLines_eq_indented`: Indenting does what it should.
* `lines_indented`: The lines of an indented text.
* `toList_indented`: The lead goes to the front and behind every line feed.
* `indented_eq_empty_iff`: Indenting makes no text empty and no empty text
  non-empty.
-/

namespace ClassForge

namespace Text

/-- Texts that are put together with a separator are told apart again. -/
theorem split_intercalate {separator : Char} {word : String} (hword : word.toList = [separator])
    {texts : List String} (hne : texts ≠ []) (htexts : ∀ text ∈ texts, separator ∉ text.toList) :
    ((word.intercalate texts).toList.splitOn separator).map String.ofList = texts := by
  have hchars : ∀ chars ∈ texts.map String.toList, separator ∉ chars := by
    simpa only [List.forall_mem_map] using htexts
  have hsplit := List.splitOn_intercalate separator hchars (by rwa [ne_eq, List.map_eq_nil_iff])
  have hid : String.ofList ∘ String.toList = id := by
    funext text
    exact String.ofList_toList
  rw [String.toList_intercalate, hword, hsplit, List.map_map, hid, List.map_id]

/-- Lines that are put together are told apart again. -/
theorem lines_intercalate {texts : List String} (hne : texts ≠ [])
    (htexts : ∀ text ∈ texts, '\n' ∉ text.toList) : lines ("\n".intercalate texts) = texts :=
  split_intercalate rfl hne htexts

theorem lines_ne_nil (text : String) : lines text ≠ [] := by
  rw [lines, ne_eq, List.map_eq_nil_iff]
  exact List.splitOn_ne_nil _ _

/-- What stands between separators holds none. -/
theorem separator_notMem_splitOn (separator : Char) (chars : List Char) :
    ∀ part ∈ chars.splitOn separator, separator ∉ part := by
  induction chars with
  | nil => simp only [List.splitOn_nil, List.forall_mem_singleton, List.not_mem_nil,
      not_false_eq_true]
  | cons c chars ih =>
      rw [List.splitOn_cons_eq_if_modifyHead]
      split
      · exact List.forall_mem_cons.mpr ⟨List.not_mem_nil, ih⟩
      · -- The character goes to the front of the first part and is no separator.
        rename_i hc
        rcases hparts : chars.splitOn separator with _ | ⟨first, rest⟩
        · exact absurd hparts (List.splitOn_ne_nil _ _)
        rw [hparts] at ih
        rcases List.forall_mem_cons.mp ih with ⟨hfirst, hrest⟩
        rw [List.modifyHead_cons]
        refine List.forall_mem_cons.mpr ⟨List.not_mem_cons_of_ne_of_not_mem ?_ hfirst, hrest⟩
        rintro rfl
        exact hc (beq_self_eq_true _)

theorem lineFeed_notMem_lines (text : String) : ∀ line ∈ lines text, '\n' ∉ line.toList := by
  rw [lines, List.forall_mem_map]
  intro chars hchars
  rw [String.toList_ofList]
  exact separator_notMem_splitOn _ _ _ hchars

/-- A text without line feeds is a single line. -/
theorem lines_of_notMem {text : String} (h : '\n' ∉ text.toList) : lines text = [text] := by
  have hlines := lines_intercalate (List.cons_ne_nil text []) (by simpa using h)
  rwa [String.intercalate_singleton] at hlines

/-- A line feed ends the last line of what is in front of it. -/
theorem lines_break (text rest : String) :
    lines (text ++ "\n" ++ rest) = lines text ++ lines rest := by
  have hchars : (text ++ "\n" ++ rest).toList = text.toList ++ '\n' :: rest.toList := by
    simp only [String.toList_append, List.append_assoc]
    rfl
  simp only [lines, hchars, List.splitOn_append_cons_self, List.map_append]

/-- Texts that are put together by line feeds keep their lines. -/
theorem lines_joined {texts : List String} (hne : texts ≠ []) :
    lines ("\n".intercalate texts) = texts.flatMap lines := by
  induction texts with
  | nil => exact absurd rfl hne
  | cons text texts ih =>
      cases texts with
      | nil => simp only [String.intercalate_singleton, List.flatMap_cons, List.flatMap_nil,
          List.append_nil]
      | cons next texts =>
          rw [String.intercalate_cons_cons, lines_break, ih (List.cons_ne_nil _ _)]
          simp only [List.flatMap_cons]

/-- A text with `lead` in front of each of its lines; an empty text stays
    empty. -/
def indented (lead text : String) : String :=
  if text = "" then "" else "\n".intercalate ((lines text).map (lead ++ ·))

/-- A lead of one line goes in front of each line and makes no further ones. -/
theorem lines_indented {lead text : String} (hlead : '\n' ∉ lead.toList) (htext : text ≠ "") :
    lines (indented lead text) = (lines text).map (lead ++ ·) := by
  rw [indented, if_neg htext]
  refine lines_intercalate (by simpa using lines_ne_nil text) ?_
  rw [List.forall_mem_map]
  intro line hline
  simp only [String.toList_append, List.mem_append, hlead, false_or]
  exact lineFeed_notMem_lines text line hline

/-- Leaving a text alone when the lead is empty is no different from putting the
    empty lead in front of every line. -/
theorem leadLines_eq_indented (lead text : String) : leadLines lead text = indented lead text := by
  unfold leadLines indented
  by_cases htext : text = ""
  · rw [if_pos (Or.inr htext), if_pos htext, htext]
  · by_cases hlead : lead = ""
    · have hid : (lines text).map (lead ++ ·) = lines text := by
        rw [hlead]
        simp only [String.empty_append, List.map_id']
      rw [if_pos (Or.inl hlead), if_neg htext, hid, intercalate_lines]
    · rw [if_neg (by simp only [hlead, htext, or_self, not_false_eq_true]), if_neg htext]

/-- The characters that stand for one character of an indented text: a line
    feed takes the lead of the line it opens with it. -/
def leadChar (lead : List Char) (c : Char) : List Char :=
  if c = '\n' then '\n' :: lead else [c]

/-- Putting a lead in front of every line puts it in front of the first and
    behind every line feed. -/
theorem intercalate_map_splitOn (lead chars : List Char) :
    ['\n'].intercalate ((chars.splitOn '\n').map (lead ++ ·))
      = lead ++ chars.flatMap (leadChar lead) := by
  -- The characters are read from the front, so at each of them the first line is still open.
  induction chars with
  | nil => simp only [List.splitOn_nil, List.map_cons, List.map_nil, List.append_nil,
      List.intercalate_singleton, List.flatMap_nil]
  | cons c chars ih =>
      rw [List.splitOn_cons_eq_if_modifyHead, List.flatMap_cons, leadChar]
      rcases hlines : chars.splitOn '\n' with _ | ⟨first, rest⟩
      · exact absurd hlines (List.splitOn_ne_nil _ _)
      rw [hlines] at ih
      by_cases hc : c = '\n'
      · -- The line feed ends an empty first line; the rest is as before.
        rw [if_pos hc, if_pos (by simp only [hc, beq_self_eq_true]), List.map_cons,
          List.intercalate_cons_of_ne_nil (by simp only [List.map_cons, ne_eq, reduceCtorEq,
            not_false_eq_true]), ih]
        simp only [List.append_nil, List.append_assoc, List.cons_append, List.nil_append]
      · -- Any other character only makes the first line longer.
        rw [if_neg hc, if_neg (by simp only [beq_iff_eq, hc, not_false_eq_true]),
          List.modifyHead_cons, List.map_cons]
        cases rest with
        | nil =>
            simp only [List.map_cons, List.map_nil, List.intercalate_singleton,
              List.append_cancel_left_eq] at ih ⊢
            rw [ih]
            rfl
        | cons next rest =>
            simp only [List.map_cons, List.intercalate_cons_cons, List.append_assoc,
              List.append_cancel_left_eq] at ih ⊢
            rw [List.cons_append, ih]
            rfl

/-- The characters of an indented text. -/
theorem toList_indented (lead text : String) (htext : text ≠ "") :
    (indented lead text).toList = lead.toList ++ text.toList.flatMap (leadChar lead.toList) := by
  -- Lines are texts here and lists of characters there.
  have hmap : ((lines text).map (lead ++ ·)).map String.toList
      = (text.toList.splitOn '\n').map (lead.toList ++ ·) := by
    rw [lines, List.map_map, List.map_map]
    refine List.map_congr_left (fun line _ => ?_)
    simp only [Function.comp_apply, String.toList_append, String.toList_ofList]
  rw [indented, if_neg htext, String.toList_intercalate, hmap, ← intercalate_map_splitOn]
  rfl

theorem leadChar_ne_nil (lead : List Char) (c : Char) : leadChar lead c ≠ [] := by
  unfold leadChar
  split <;> exact List.cons_ne_nil _ _

/-- Indenting makes no text empty, even with an empty lead. -/
theorem indented_eq_empty_iff (lead text : String) : indented lead text = "" ↔ text = "" := by
  constructor
  · intro hempty
    refine Decidable.byContradiction fun htext => ?_
    have hchars := toList_indented lead text htext
    rw [hempty, String.toList_empty] at hchars
    -- The first character of the text leaves something behind.
    rcases hlist : text.toList with _ | ⟨c, rest⟩
    · exact htext (String.toList_eq_nil_iff.mp hlist)
    · rw [hlist, List.flatMap_cons] at hchars
      have hnil := List.append_eq_nil_iff.mp (List.append_eq_nil_iff.mp hchars.symm).2
      exact leadChar_ne_nil _ _ hnil.1
  · intro htext
    rw [indented, if_pos htext]

end Text

end ClassForge
