import ClassForge.Proofs.Generate.Twins
import ClassForge.Proofs.Spec.Documents
import ClassForge.Proofs.Text.Indentation
import Mathlib.Data.List.Infix

/-!
# Comments That Stay Comments

A documentation comment is to be a comment from its first line to its last: opened once,
framed line by line, and not closed before its end. Descriptions, types and names of a spec
go into comments as they are, and nothing keeps them from having line feeds or the sign
that closes a comment in them. So the first line and the last are always as they should be,
but what is in between depends on the spec.

The frame is put in front of every line of a comment, and such a line is a text that may
itself have several lines. Only the first of these gets the frame; the others need to bring
it along. The sign that closes a comment cannot come about by putting texts together, since
there is always a space or a line feed between two of them. So a comment stays one exactly
if each of its lines is `Harmless`, and that can be asked of the texts that a spec puts into
the comments of its class.

## Main definitions

* `IsComment`: A text that is one comment, framed line by line.
* `Harmless`: A text that can be put into a comment.
* `Inert`: A single line that does not close a comment.
* `Php.spliced`, `TypeScript.spliced`: The texts that a class puts into its comments.
* `StayComments`: The comments of a class, and when they stay comments.

## Theorems

* `isComment_framed_iff`: A comment stays one exactly if all its lines are harmless.
* `harmless_spaced_iff`: An inert text in front of another changes nothing.
* `generated_comments_stay_comments`: The comments of generated classes.
* `comment_leaves_frame`: A spec whose comments do not stay comments.
-/

namespace ClassForge

namespace Code

/-- Whether a text closes a comment. -/
def HasEnd (text : String) : Prop := ['*', '/'] <:+: text.toList

/-- Whether every line of a text but the first brings along the frame of a comment. -/
def Continues (text : String) : Prop :=
  ∀ line ∈ (Text.lines text).tail, [' ', '*'] <+: line.toList

/-- A text that can be put into a comment. -/
structure Harmless (text : String) : Prop where
  /-- It stays in the frame. -/
  continues : Continues text
  /-- It does not close the comment. -/
  unended : ¬ HasEnd text

/-- A single line that does not close a comment. -/
structure Inert (text : String) : Prop where
  /-- It has no line feeds. -/
  unbroken : '\n' ∉ text.toList
  /-- It does not close a comment. -/
  unended : ¬ HasEnd text

/-- A text that is one comment, framed line by line. -/
structure IsComment (text : String) : Prop where
  /-- The first line opens the comment, the last one closes it, and all others are framed. -/
  lines_framed : ∃ inner, Text.lines text = "/**" :: (inner ++ [" */"]) ∧
    ∀ line ∈ inner, [' ', '*'] <+: line.toList
  /-- The comment is closed at the very end only. -/
  ends_last : ∀ front back, text.toList = front ++ '*' :: '/' :: back → back = []

instance (text : String) : Decidable (HasEnd text) :=
  inferInstanceAs (Decidable (['*', '/'] <:+: text.toList))

instance (text : String) : Decidable (Continues text) :=
  inferInstanceAs (Decidable (∀ line ∈ (Text.lines text).tail, [' ', '*'] <+: line.toList))

instance (text : String) : Decidable (Harmless text) :=
  decidable_of_iff (Continues text ∧ ¬ HasEnd text) ⟨fun h => ⟨h.1, h.2⟩, fun h => ⟨h.1, h.2⟩⟩

section Ends

/-- The sign that closes a comment does not come about across another character. -/
theorem infix_append_cons {c : Char} (hstar : c ≠ '*') (hslash : c ≠ '/') (front back : List Char) :
    ['*', '/'] <:+: front ++ c :: back ↔ ['*', '/'] <:+: front ∨ ['*', '/'] <:+: back := by
  induction front with
  | nil =>
      rw [List.nil_append, List.infix_cons_iff]
      simp [hstar.symm]
  | cons a front ih =>
      rw [List.cons_append, List.infix_cons_iff, ih, List.infix_cons_iff, or_assoc]
      -- The sign starts with the first character or not; its second one is not `c`.
      cases front with
      | nil => simp [hslash.symm]
      | cons b front => simp [List.cons_prefix_cons]

theorem hasEnd_spaced_iff (front back : String) :
    HasEnd (front ++ " " ++ back) ↔ HasEnd front ∨ HasEnd back := by
  unfold HasEnd
  have hchars : (front ++ " " ++ back).toList = front.toList ++ ' ' :: back.toList := by simp
  rw [hchars, infix_append_cons (by decide) (by decide)]

theorem hasEnd_joined_iff (texts : List String) :
    HasEnd ("\n".intercalate texts) ↔ ∃ text ∈ texts, HasEnd text := by
  induction texts with
  | nil => simp [HasEnd]
  | cons text texts ih =>
      cases texts with
      | nil => simp
      | cons next texts =>
          have hchars : ("\n".intercalate (text :: next :: texts)).toList
              = text.toList ++ '\n' :: ("\n".intercalate (next :: texts)).toList := by
            rw [String.intercalate_cons_cons]
            simp
          have hends : HasEnd ("\n".intercalate (text :: next :: texts))
              ↔ HasEnd text ∨ HasEnd ("\n".intercalate (next :: texts)) := by
            unfold HasEnd
            rw [hchars, infix_append_cons (by decide) (by decide)]
          rw [hends, ih]
          simp only [List.mem_cons, exists_eq_or_imp]

/-- In front of the line that closes a comment it is not closed. -/
theorem ends_last_iff (front : String) :
    (∀ before after, (front ++ "\n" ++ " */").toList = before ++ '*' :: '/' :: after → after = [])
      ↔ ¬ HasEnd front := by
  have hchars : (front ++ "\n" ++ " */").toList = front.toList ++ ['\n', ' ', '*'] ++ ['/'] := by
    simp
  rw [hchars]
  constructor
  · intro hlast hend
    obtain ⟨before, after, hfront⟩ := hend
    have hnil := hlast before (after ++ ['\n', ' ', '*', '/']) (by simp [← hfront])
    simp at hnil
  · intro hend before after hsplit
    by_contra hafter
    obtain ⟨rest, last, rfl⟩ := (List.eq_nil_or_concat' after).resolve_left hafter
    -- The last character is that of the last sign, so there is another sign before it.
    have hrest : front.toList ++ ['\n', ' ', '*'] = before ++ '*' :: '/' :: rest := by
      have hboth : front.toList ++ ['\n', ' ', '*'] ++ ['/']
          = (before ++ '*' :: '/' :: rest) ++ [last] := by simpa using hsplit
      exact List.append_inj_left' hboth rfl
    have hinfix : ['*', '/'] <:+: front.toList ++ '\n' :: [' ', '*'] := by
      rw [hrest]
      exact ⟨before, rest, by simp⟩
    rw [infix_append_cons (by decide) (by decide)] at hinfix
    rcases hinfix with hinfix | hinfix
    · exact hend hinfix
    · exact absurd hinfix (by decide)

end Ends

section Lines

/-- What is put in front of a text goes to its first line. -/
theorem lines_lead {lead : String} (hlead : '\n' ∉ lead.toList) (text : String) :
    ∃ first rest, Text.lines text = first :: rest ∧
      Text.lines (lead ++ text) = (lead ++ first) :: rest := by
  obtain ⟨first, rest, hlines⟩ := List.exists_cons_of_ne_nil (Text.lines_ne_nil text)
  refine ⟨first, rest, hlines, ?_⟩
  have hjoined : lead ++ text = "\n".intercalate ((lead ++ first) :: rest) := by
    rw [String.intercalate_cons_append, ← hlines, Text.intercalate_lines]
  have hbreaks : ∀ line ∈ first :: rest, '\n' ∉ line.toList := by
    rw [← hlines]
    exact Text.lineFeed_notMem_lines text
  obtain ⟨hfirst, hrest⟩ := List.forall_mem_cons.mp hbreaks
  rw [hjoined]
  refine Text.lines_intercalate (List.cons_ne_nil _ _) (List.forall_mem_cons.mpr ⟨?_, hrest⟩)
  simp [hlead, hfirst]

theorem continues_lead_iff {lead : String} (hlead : '\n' ∉ lead.toList) (text : String) :
    Continues (lead ++ text) ↔ Continues text := by
  obtain ⟨first, rest, hlines, hled⟩ := lines_lead hlead text
  unfold Continues
  rw [hlines, hled, List.tail_cons, List.tail_cons]

/-- The lines of a text in its frame. -/
theorem framed_lines_iff (text : String) :
    (∀ line ∈ Text.lines (DocComment.frame text), [' ', '*'] <+: line.toList)
      ↔ Continues text := by
  unfold DocComment.frame
  by_cases hempty : text = ""
  · rw [if_pos hempty, hempty]
    exact ⟨fun _ => by decide, fun _ => by decide⟩
  · obtain ⟨first, rest, hlines, hframed⟩ := lines_lead (by decide : '\n' ∉ " * ".toList) text
    rw [if_neg hempty, hframed]
    unfold Continues
    rw [hlines, List.tail_cons, List.forall_mem_cons]
    simp

theorem hasEnd_frame_iff (text : String) : HasEnd (DocComment.frame text) ↔ HasEnd text := by
  unfold DocComment.frame
  by_cases hempty : text = ""
  · rw [if_pos hempty, hempty]
    decide
  · have hframe : " * " ++ text = " *" ++ " " ++ text := rfl
    have hstar : ¬ HasEnd " *" := by decide
    rw [if_neg hempty, hframe, hasEnd_spaced_iff, or_iff_right hstar]

end Lines

section Comments

namespace DocComment

theorem framed_eq (comment : DocComment) :
    comment.framed = "\n".intercalate ("/**" :: comment.lines.map frame) ++ "\n" ++ " */" := by
  unfold framed
  rw [← List.cons_append, String.intercalate_append_of_ne_nil (List.cons_ne_nil _ _)
    (List.cons_ne_nil _ _), String.intercalate_singleton]

theorem lines_framed (comment : DocComment) :
    Text.lines comment.framed
      = "/**" :: ((comment.lines.map frame).flatMap Text.lines ++ [" */"]) := by
  unfold framed
  rw [Text.lines_joined (List.cons_ne_nil _ _), List.flatMap_cons, List.flatMap_append,
    List.flatMap_singleton]
  rfl

/-- A comment stays one exactly if all its lines are harmless. -/
theorem isComment_framed_iff (comment : DocComment) :
    IsComment comment.framed ↔ ∀ line ∈ comment.lines, Harmless line := by
  -- The two demands on a comment are demands on its lines, each by itself.
  have hframed : (∃ inner, Text.lines comment.framed = "/**" :: (inner ++ [" */"]) ∧
      ∀ line ∈ inner, [' ', '*'] <+: line.toList) ↔ ∀ line ∈ comment.lines, Continues line := by
    have hinner : (∀ line ∈ (comment.lines.map frame).flatMap Text.lines,
        [' ', '*'] <+: line.toList) ↔ ∀ line ∈ comment.lines, Continues line := by
      simp only [List.forall_mem_flatMap, List.forall_mem_map, framed_lines_iff]
    rw [← hinner, lines_framed]
    constructor
    · rintro ⟨inner, hlines, hinner⟩
      rw [List.cons.injEq, List.append_cancel_right_eq] at hlines
      rw [hlines.2]
      exact hinner
    · intro hinner
      exact ⟨_, rfl, hinner⟩
  have hlast : (∀ front back, comment.framed.toList = front ++ '*' :: '/' :: back → back = [])
      ↔ ∀ line ∈ comment.lines, ¬ HasEnd line := by
    have hopen : ¬ HasEnd "/**" := by decide
    rw [framed_eq, ends_last_iff, hasEnd_joined_iff]
    simp only [List.mem_cons, exists_eq_or_imp, hopen, false_or, List.mem_map, not_exists,
      not_and, forall_exists_index, and_imp, forall_apply_eq_imp_iff₂, hasEnd_frame_iff]
  constructor
  · rintro ⟨hlines, hends⟩ line hline
    exact ⟨hframed.mp hlines line hline, hlast.mp hends line hline⟩
  · intro hharmless
    exact ⟨hframed.mpr fun line hline => (hharmless line hline).continues,
      hlast.mpr fun line hline => (hharmless line hline).unended⟩

end DocComment

end Comments

section Texts

theorem harmless_empty : Harmless "" := by decide

/-- A single line is harmless unless it closes a comment. -/
theorem Inert.harmless {text : String} (h : Inert text) : Harmless text := by
  refine ⟨?_, h.unended⟩
  unfold Continues
  rw [Text.lines_of_notMem h.unbroken]
  simp

theorem Inert.spaced {front back : String} (hfront : Inert front) (hback : Inert back) :
    Inert (front ++ " " ++ back) := by
  refine ⟨?_, ?_⟩
  · simp [hfront.unbroken, hback.unbroken]
  · rw [hasEnd_spaced_iff]
    exact fun h => h.elim hfront.unended hback.unended

/-- An inert text in front of another, with a space between them, changes nothing. -/
theorem harmless_spaced_iff {front : String} (hfront : Inert front) (text : String) :
    Harmless (front ++ " " ++ text) ↔ Harmless text := by
  have hlead : '\n' ∉ (front ++ " ").toList := by simp [hfront.unbroken]
  have hcontinues := continues_lead_iff hlead text
  have hends := hasEnd_spaced_iff front text
  rw [or_iff_right hfront.unended] at hends
  constructor
  · intro h
    exact ⟨hcontinues.mp h.continues, fun hend => h.unended (hends.mpr hend)⟩
  · intro h
    exact ⟨hcontinues.mpr h.continues, fun hend => h.unended (hends.mp hend)⟩

/-- The line of a tag is harmless if its value is. -/
theorem harmless_line_iff {tag : DocTag} (htag : Inert ("@" ++ tag.name)) :
    Harmless tag.line ↔ Harmless tag.value :=
  harmless_spaced_iff htag tag.value

/-- The lines of a comment are its description and those of its tags. -/
theorem DocComment.harmless_lines_iff (comment : DocComment) :
    (∀ line ∈ comment.lines, Harmless line)
      ↔ (∀ description ∈ comment.description, Harmless description) ∧
        ∀ tag ∈ comment.tags, Harmless tag.line := by
  obtain ⟨description, tags⟩ := comment
  cases description with
  | none => simp [lines]
  | some description =>
      by_cases htags : tags = []
      · simp [lines, htags]
      · simp [lines, htags, harmless_empty]

/-- The lines of a comment with a tag of the same name for everything in a list. -/
theorem DocComment.harmless_tags_iff {ι : Type} {name : String} (hinert : Inert ("@" ++ name))
    {tag : ι → DocTag} (hname : ∀ item, (tag item).name = name) (items : List ι) :
    (∀ line ∈ (DocComment.mk none (items.map tag)).lines, Harmless line)
      ↔ ∀ item ∈ items, Harmless (tag item).value := by
  have htag : ∀ item, Harmless (tag item).line ↔ Harmless (tag item).value := fun item =>
    harmless_line_iff (by rwa [hname])
  simp [DocComment.harmless_lines_iff, htag]

theorem inert_param : Inert ("@" ++ "param") := ⟨by decide, by decide⟩

/-- The comments of a class and the texts that go into them. -/
structure StayComments (emitted : List DocComment) (print : DocComment → String)
    (spliced : List String) : Prop where
  /-- Every comment has its first line and its last. -/
  enclosed : ∀ comment ∈ emitted, (Text.lines (print comment)).head? = some "/**" ∧
    (Text.lines (print comment)).getLast? = some " */"
  /-- A comment stays one exactly if its lines are harmless. -/
  stays_iff : ∀ comment ∈ emitted,
    (IsComment (print comment) ↔ ∀ line ∈ comment.lines, Harmless line)
  /-- All of them do exactly if what goes into them is harmless. -/
  all_stay_iff : (∀ comment ∈ emitted, IsComment (print comment))
    ↔ ∀ text ∈ spliced, Harmless text

/-- Comments in their frame, made and kept unless they are empty. -/
theorem stayComments_of_framed {made : List DocComment} {print : DocComment → String}
    {spliced : List String}
    (hprint : ∀ comment : DocComment, comment.isEmpty = false → print comment = comment.framed)
    (hspliced : (∀ comment ∈ made, ∀ line ∈ comment.lines, Harmless line)
      ↔ ∀ text ∈ spliced, Harmless text) :
    StayComments (made.filter fun comment => !comment.isEmpty) print spliced := by
  have hframed : ∀ comment ∈ made.filter (fun comment => !comment.isEmpty),
      print comment = comment.framed := by
    intro comment hcomment
    rw [List.mem_filter] at hcomment
    exact hprint comment (by simpa using hcomment.2)
  have hstays : ∀ comment ∈ made.filter (fun comment => !comment.isEmpty),
      (IsComment (print comment) ↔ ∀ line ∈ comment.lines, Harmless line) := by
    intro comment hcomment
    rw [hframed comment hcomment, comment.isComment_framed_iff]
  refine ⟨fun comment hcomment => ?_, hstays, ?_⟩
  · rw [hframed comment hcomment, comment.lines_framed]
    refine ⟨rfl, ?_⟩
    rw [← List.cons_append]
    exact List.getLast?_concat ..
  · rw [← hspliced, forall₂_congr hstays]
    constructor
    · intro hall comment hmade
      -- A comment that is left out has no lines.
      by_cases hempty : comment.isEmpty = true
      · rw [comment.lines_eq_nil_iff.mpr hempty]
        exact List.forall_mem_nil _
      · exact hall comment (by simp [hmade, hempty])
    · intro hall comment hcomment
      exact hall comment (List.mem_of_mem_filter hcomment)

end Texts

end Code

namespace Php

open Code Spec

/-- The texts that go into the comments of a class. -/
def spliced (className : String) (fields : List Field) : List String :=
  className :: fields.flatMap fun field =>
    field.comment.toList ++ [typeWord field.type,
      (paramTag (typeWord field.type) field.name field.comment).value]

theorem inert_typeWord {type : String} (htype : Inert type) : Inert (typeWord type) := by
  unfold typeWord
  split
  case h_8 => exact htype
  all_goals exact ⟨by decide, by decide⟩

theorem harmless_memberComment_iff (field : Field) :
    (∀ line ∈ (memberComment field).lines, Harmless line)
      ↔ (∀ remark ∈ field.comment, Harmless remark) ∧ Harmless (typeWord field.type) := by
  have hvar : Inert ("@" ++ "var") := ⟨by decide, by decide⟩
  rw [DocComment.harmless_lines_iff, memberComment, List.forall_mem_singleton,
    harmless_line_iff hvar]
  rfl

theorem harmless_constructorComment_iff (fields : List Field) :
    (∀ line ∈ (constructorComment fields).lines, Harmless line)
      ↔ ∀ field ∈ fields,
        Harmless (paramTag (typeWord field.type) field.name field.comment).value :=
  DocComment.harmless_tags_iff inert_param (fun _ => rfl) fields

theorem harmless_readerComment_iff (className : String) :
    (∀ line ∈ (readerComment className).lines, Harmless line) ↔ Harmless className := by
  have hreturn : Inert ("@" ++ "return") := ⟨by decide, by decide⟩
  have hparam : Harmless (paramTag "array" "json" none).line := by decide +kernel
  have htag : Harmless (returnTag className).line ↔ Harmless className :=
    harmless_line_iff hreturn
  simp [DocComment.harmless_lines_iff, readerComment, htag, hparam]

theorem forall_spliced_iff (className : String) (fields : List Field) :
    (∀ text ∈ spliced className fields, Harmless text)
      ↔ Harmless className ∧ ∀ field ∈ fields,
        ((∀ remark ∈ field.comment, Harmless remark) ∧ Harmless (typeWord field.type)) ∧
          Harmless (paramTag (typeWord field.type) field.name field.comment).value := by
  rw [spliced, List.forall_mem_cons, List.forall_mem_flatMap]
  refine and_congr_right fun _ => forall₂_congr fun field _ => ?_
  rw [List.forall_mem_append]
  simp [and_assoc]

/-- The comments of a class are harmless exactly if what goes into them is. -/
theorem harmless_comments_iff (className : String) (fields : List Field) :
    (∀ comment ∈ comments className fields, ∀ line ∈ comment.lines, Harmless line)
      ↔ ∀ text ∈ spliced className fields, Harmless text := by
  have hwriter : ∀ line ∈ writerComment.lines, Harmless line := by decide +kernel
  have hreaders : (∀ view ∈ deserializeViews fields, Harmless className) ↔ Harmless className := by
    -- There is a reader of all fields in any case.
    rw [deserializeViews_eq, List.map_cons, List.forall_mem_cons]
    exact ⟨And.left, fun h => ⟨h, fun _ _ => h⟩⟩
  have hwriters : ∀ view ∈ serializeViews fields, ∀ line ∈ writerComment.lines, Harmless line :=
    fun _ _ => hwriter
  rw [forall_spliced_iff, forall₂_and, and_comm]
  simp only [comments, List.forall_mem_append, List.forall_mem_map, List.forall_mem_singleton,
    harmless_memberComment_iff, harmless_constructorComment_iff, harmless_readerComment_iff,
    hreaders, and_iff_left hwriters]

theorem harmless_spliced {className : String} {fields : List Field} (hclass : Inert className)
    (hfields : ∀ field ∈ fields, Inert field.name ∧ Inert field.type ∧
      ∀ remark ∈ field.comment, Inert remark) :
    ∀ text ∈ spliced className fields, Harmless text := by
  rw [forall_spliced_iff]
  refine ⟨hclass.harmless, fun field hfield => ?_⟩
  obtain ⟨hname, htype, hremark⟩ := hfields field hfield
  have hword : Inert (typeWord field.type) := inert_typeWord htype
  refine ⟨⟨fun remark h => (hremark remark h).harmless, hword.harmless⟩, ?_⟩
  -- The words of the tag have spaces between them.
  have hvariable : Inert ("$" ++ field.name) := by
    have hchars : ("$" ++ field.name).toList = [] ++ '$' :: field.name.toList := by simp
    refine ⟨by simp [hname.unbroken], ?_⟩
    unfold HasEnd
    rw [hchars, infix_append_cons (by decide) (by decide)]
    exact fun h => h.elim (by decide) hname.unended
  cases hcomment : field.comment with
  | none => exact (hword.spaced hvariable).harmless
  | some remark =>
      exact ((hword.spaced hvariable).spaced (hremark remark hcomment)).harmless

end Php

namespace TypeScript

open Code Spec

/-- The texts that go into the comments of a class. Neither types nor the name of the class
    do. -/
def spliced (fields : List Field) : List String :=
  fields.flatMap fun field =>
    field.comment.toList ++ [(paramTag field.name field.comment).value]

theorem harmless_memberComment_iff (field : Field) :
    (∀ line ∈ (memberComment field).lines, Harmless line)
      ↔ ∀ remark ∈ field.comment, Harmless remark := by
  simp [DocComment.harmless_lines_iff, memberComment]

theorem harmless_constructorComment_iff (fields : List Field) :
    (∀ line ∈ (constructorComment fields).lines, Harmless line)
      ↔ ∀ field ∈ fields, Harmless (paramTag field.name field.comment).value :=
  DocComment.harmless_tags_iff inert_param
    (fun field => by cases field.comment <;> rfl) fields

theorem forall_spliced_iff (fields : List Field) :
    (∀ text ∈ spliced fields, Harmless text)
      ↔ ∀ field ∈ fields, (∀ remark ∈ field.comment, Harmless remark) ∧
        Harmless (paramTag field.name field.comment).value := by
  rw [spliced, List.forall_mem_flatMap]
  refine forall₂_congr fun field _ => ?_
  rw [List.forall_mem_append]
  simp

/-- The comments of a class are harmless exactly if what goes into them is. -/
theorem harmless_comments_iff (fields : List Field) :
    (∀ comment ∈ comments fields, ∀ line ∈ comment.lines, Harmless line)
      ↔ ∀ text ∈ spliced fields, Harmless text := by
  rw [forall_spliced_iff, forall₂_and]
  simp only [comments, List.forall_mem_append, List.forall_mem_map, List.forall_mem_singleton,
    harmless_memberComment_iff, harmless_constructorComment_iff]

theorem harmless_spliced {fields : List Field}
    (hfields : ∀ field ∈ fields, Inert field.name ∧ ∀ remark ∈ field.comment, Inert remark) :
    ∀ text ∈ spliced fields, Harmless text := by
  rw [forall_spliced_iff]
  intro field hfield
  obtain ⟨hname, hremark⟩ := hfields field hfield
  refine ⟨fun remark h => (hremark remark h).harmless, ?_⟩
  cases hcomment : field.comment with
  | none => exact hname.harmless
  | some remark => exact (hname.spaced (hremark remark hcomment)).harmless

end TypeScript

namespace Generate

open Code Print Spec

/-- The comments of the class that is generated from a spec, in either grammar. Each of them
    is printed as a text that opens with the first line of a comment and closes with the
    last. In between it stays a comment exactly if its own lines are harmless, and all of
    them do exactly if the texts that the spec puts into them are. That is so if each of
    these is a single line that does not close a comment. -/
theorem generated_comments_stay_comments (spec : Spec) :
    (∀ php, spec.php = .ok php →
      let emitted := Php.docs (Php.fileStatements php spec.fields)
      outline .php spec = .ok (Php.fileOutline (Php.fileStatements php spec.fields)) ∧
        (∀ config, ∀ comment ∈ emitted, ((Php.statementOutline (.doc comment)).print
          (.initial config [.indent, .trace])).map Prod.fst = .ok (.ok (Php.docText comment))) ∧
        StayComments emitted Php.docText (Php.spliced php.className spec.fields) ∧
        (Inert php.className → (∀ field ∈ spec.fields, Inert field.name ∧ Inert field.type ∧
          ∀ remark ∈ field.comment, Inert remark) →
          ∀ comment ∈ emitted, IsComment (Php.docText comment))) ∧
      ∀ ts, spec.ts = .ok ts →
        let emitted := TypeScript.docs (TypeScript.fileStatements ts spec.fields)
        outline .ts spec
            = .ok (TypeScript.fileOutline (TypeScript.fileStatements ts spec.fields)) ∧
          (∀ config, ∀ comment ∈ emitted, ((TypeScript.statementOutline (.doc comment)).print
            (.initial config [.indent, .trace])).map Prod.fst
              = .ok (.ok (TypeScript.docText comment))) ∧
          StayComments emitted TypeScript.docText (TypeScript.spliced spec.fields) ∧
          ((∀ field ∈ spec.fields, Inert field.name ∧ ∀ remark ∈ field.comment, Inert remark) →
            ∀ comment ∈ emitted, IsComment (TypeScript.docText comment)) := by
  refine ⟨fun php hphp => ?_, fun ts hts => ?_⟩
  · have hstay : StayComments (Php.docs (Php.fileStatements php spec.fields)) Php.docText
        (Php.spliced php.className spec.fields) := by
      rw [Php.docs_fileStatements]
      exact stayComments_of_framed (fun comment _ => Php.docText_eq_framed comment)
        (Php.harmless_comments_iff _ _)
    refine ⟨outline_php hphp, fun config comment _ => Php.print_doc config comment, hstay, ?_⟩
    intro hclass hfields
    exact hstay.all_stay_iff.mpr (Php.harmless_spliced hclass hfields)
  · have hstay : StayComments (TypeScript.docs (TypeScript.fileStatements ts spec.fields))
        TypeScript.docText (TypeScript.spliced spec.fields) := by
      rw [TypeScript.docs_fileStatements]
      exact stayComments_of_framed (fun _ => TypeScript.docText_eq_framed)
        (TypeScript.harmless_comments_iff _)
    refine ⟨outline_ts hts, fun config comment _ => TypeScript.print_doc config comment, hstay, ?_⟩
    intro hfields
    exact hstay.all_stay_iff.mpr (TypeScript.harmless_spliced hfields)

/-- A remark of two lines that brings the frame of the second along. -/
theorem generated_comments_stay_comments_framed_remark :
    let remark := "First.\n * Second."
    let spec : Spec := ⟨"out", ⟨some ⟨"App", "Item"⟩, some ⟨"Item"⟩⟩,
      [⟨"id", "integer", some remark, []⟩]⟩
    Spec.ofText spec.write = .ok spec ∧
      (∀ comment ∈ Php.docs (Php.fileStatements ⟨"App", "Item"⟩ spec.fields),
        IsComment (Php.docText comment)) ∧
      ∀ comment ∈ TypeScript.docs (TypeScript.fileStatements ⟨"Item"⟩ spec.fields),
        IsComment (TypeScript.docText comment) := by
  intro remark spec
  obtain ⟨hphp, hts⟩ := generated_comments_stay_comments spec
  obtain ⟨-, -, hinPhp, -⟩ := hphp ⟨"App", "Item"⟩ rfl
  obtain ⟨-, -, hinTs, -⟩ := hts ⟨"Item"⟩ rfl
  exact ⟨Spec.ofText_write spec, hinPhp.all_stay_iff.mpr (by decide +kernel),
    hinTs.all_stay_iff.mpr (by decide +kernel)⟩

/-- A spec that is accepted and puts a remark into its comments that closes them, and has a
    second line without a frame. -/
theorem comment_leaves_frame :
    let remark := "Ends */ here.\nNot framed."
    let spec : Spec := ⟨"out", ⟨some ⟨"App", "Item"⟩, some ⟨"Item"⟩⟩,
      [⟨"id", "integer", some remark, []⟩]⟩
    Spec.ofText spec.write = .ok spec ∧ spec.php = .ok ⟨"App", "Item"⟩ ∧
      spec.ts = .ok ⟨"Item"⟩ ∧
      (∃ comment ∈ Php.docs (Php.fileStatements ⟨"App", "Item"⟩ spec.fields),
        Php.docText comment
            = "/**\n * Ends */ here.\nNot framed.\n *\n * @var int\n */" ∧
          ¬ IsComment (Php.docText comment)) ∧
      ∃ comment ∈ TypeScript.docs (TypeScript.fileStatements ⟨"Item"⟩ spec.fields),
        TypeScript.docText comment = "/**\n * Ends */ here.\nNot framed.\n */" ∧
          ¬ IsComment (TypeScript.docText comment) := by
  intro remark spec
  refine ⟨Spec.ofText_write spec, rfl, rfl,
    ⟨Php.memberComment ⟨"id", "integer", some remark, []⟩, ?_, by decide +kernel, ?_⟩,
    ⟨TypeScript.memberComment ⟨"id", "integer", some remark, []⟩, ?_, by decide +kernel, ?_⟩⟩
  · rw [Php.docs_fileStatements]
    exact List.mem_filter.mpr ⟨List.mem_cons_self, rfl⟩
  · rw [Php.docText_eq_framed, DocComment.isComment_framed_iff]
    decide +kernel
  · rw [TypeScript.docs_fileStatements]
    exact List.mem_filter.mpr ⟨List.mem_cons_self, rfl⟩
  · rw [TypeScript.docText_eq_framed rfl, DocComment.isComment_framed_iff]
    decide +kernel

end Generate

end ClassForge
