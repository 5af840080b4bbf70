import ClassForge.Proofs.Generate.Blocks

/-!
# Comments of a Generated Class

Which documentation comments there are in a generated file. The generators make a comment
for every member and for the constructor, and in PHP also for every reader and writer, but
a comment with nothing to say is left out. Comments can only stand among the statements of
a file, a class or a method, so the comments of a file are found by going through these.

Both grammars print a comment as one text. Its lines are put into the same frame, but once
with a line feed behind each of them and once with line feeds between them. That makes a
difference only if there are no lines.

## Main definitions

* `Gathers`: A way to gather the comments of statements.
* `Php.docs`, `TypeScript.docs`: The comments among statements.
* `Php.comments`, `TypeScript.comments`: The comments that are made for a class.
* `DocComment.framed`: The text of a comment.

## Theorems

* `Gathers.class_body`: The comments of a class, given those of its blocks.
* `Php.docs_fileStatements`, `TypeScript.docs_fileStatements`: The comments of a file are
  those made for its class, less the empty ones.
* `Php.docLines_eq`, `TypeScript.docLines_eq`: Both grammars find the same lines.
* `Php.docText_eq_framed`, `TypeScript.docText_eq_framed`: How comments are printed.
* `docText_eq_docText_iff`: When both grammars print the same.
-/

namespace ClassForge

namespace Code

namespace DocComment

/-- A line of a comment in its frame. -/
def frame (line : String) : String := if line = "" then " *" else " * " ++ line

/-- The text of a comment: its lines in their frame, between the line that opens the comment
    and the line that closes it. -/
def framed (comment : DocComment) : String :=
  "\n".intercalate ("/**" :: (comment.lines.map frame ++ [" */"]))

/-- There are lines unless there is nothing to say. -/
theorem lines_eq_nil_iff (comment : DocComment) : comment.lines = [] ↔ comment.isEmpty = true := by
  obtain ⟨description, tags⟩ := comment
  cases description with
  | none => simp [lines, isEmpty]
  | some description =>
      by_cases htags : tags = []
      · simp [lines, isEmpty, htags]
      · simp [lines, isEmpty, htags]

end DocComment

end Code

namespace Generate

open Code

section Gathering

variable {σ : Type} {words : Vocabulary σ} {found : σ → List DocComment}
  {foundAll : List σ → List DocComment}

/-- A way to gather the comments of statements. -/
structure Gathers (words : Vocabulary σ) (found : σ → List DocComment)
    (foundAll : List σ → List DocComment) : Prop where
  nil : foundAll [] = []
  cons : ∀ statement statements,
    foundAll (statement :: statements) = found statement ++ foundAll statements
  doc : ∀ comment, found (words.doc comment) = [comment]
  blank : found words.blank = []

namespace Gathers

variable (h : Gathers words found foundAll)

include h

theorem eq_flatMap (statements : List σ) : foundAll statements = statements.flatMap found := by
  induction statements with
  | nil => rw [h.nil, List.flatMap_nil]
  | cons statement statements ih => rw [h.cons, ih, List.flatMap_cons]

/-- There are no comments in statements that have none. -/
theorem eq_nil {statements : List σ} (hnone : ∀ statement ∈ statements, found statement = []) :
    foundAll statements = [] := by
  rw [h.eq_flatMap, List.flatMap_eq_nil_iff]
  exact hnone

/-- What is found in blocks does not depend on what stands between them. -/
theorem separated (blocks : List (List σ)) :
    foundAll (separated words.blank blocks) = blocks.flatMap foundAll := by
  have hblock : foundAll = fun block => block.flatMap found := funext h.eq_flatMap
  rw [h.eq_flatMap, hblock]
  cases blocks with
  | nil => rfl
  | cons block blocks =>
      rw [Generate.separated, List.flatMap_append, List.flatMap_assoc, List.flatMap_cons]
      simp [h.blank]

/-- A comment is in front of its statement unless it is empty. -/
theorem documented {statement : σ} (hstatement : found statement = []) (comment : DocComment) :
    foundAll (words.documented comment statement) = [comment].filter fun made => !made.isEmpty := by
  rw [h.eq_flatMap, Vocabulary.documented]
  by_cases hempty : comment.isEmpty = true
  · simp [hempty, hstatement]
  · simp [hempty, h.doc, hstatement]

omit h in
/-- Blocks with a comment each, unless it is empty. -/
theorem blocks {ι : Type} {block : ι → List σ} {comment : ι → DocComment}
    (hblock : ∀ item, foundAll (block item) = [comment item].filter fun made => !made.isEmpty)
    (items : List ι) :
    (items.map block).flatMap foundAll = (items.map comment).filter fun made => !made.isEmpty := by
  induction items with
  | nil => rfl
  | cons item items ih =>
      rw [List.map_cons, List.flatMap_cons, ih, hblock, List.map_cons, ← List.filter_append,
        List.singleton_append]

/-- The comments of a class: those of its members, of its constructor, and of its readers
    and writers. -/
theorem class_body {ι : Type} {memberBlock : ι → List σ} {member : ι → DocComment}
    (hmember : ∀ item, foundAll (memberBlock item)
      = [member item].filter fun comment => !comment.isEmpty)
    {constructor : List σ} {made : DocComment}
    (hconstructor : foundAll constructor = [made].filter fun comment => !comment.isEmpty)
    {others : List (List σ)} {rest : List DocComment}
    (hothers : others.flatMap foundAll = rest.filter fun comment => !comment.isEmpty)
    (items : List ι) :
    foundAll (Generate.separated words.blank (items.map memberBlock ++ [constructor] ++ others))
      = (items.map member ++ [made] ++ rest).filter fun comment => !comment.isEmpty := by
  rw [h.separated, List.flatMap_append, List.flatMap_append, blocks hmember,
    List.flatMap_singleton, hconstructor, hothers, List.filter_append, List.filter_append]

end Gathers

end Gathering

end Generate

namespace Php

open Code Spec Generate

theorem docLines_eq (comment : DocComment) : docLines comment = comment.lines := rfl

mutual

/-- The comments in a statement. -/
def statementDocs : Statement → List DocComment
  | .doc comment => [comment]
  | .classDecl _ members => docs members
  | .method _ body => docs body
  | _ => []

/-- The comments among statements, in order. -/
def docs : List Statement → List DocComment
  | [] => []
  | statement :: statements => statementDocs statement ++ docs statements

end

/-- The comment of a member. -/
def memberComment (field : Field) : DocComment :=
  ⟨field.comment, [varTag (typeWord field.type) none]⟩

/-- The comment of the constructor. -/
def constructorComment (fields : List Field) : DocComment :=
  ⟨none, fields.map fun field => paramTag (typeWord field.type) field.name field.comment⟩

/-- The comment of a reader. -/
def readerComment (className : String) : DocComment :=
  ⟨none, [paramTag "array" "json" none, returnTag className]⟩

/-- The comment of a writer. -/
def writerComment : DocComment := ⟨none, [returnTag "array"]⟩

/-- The comments that are made for a class. -/
def comments (className : String) (fields : List Field) : List DocComment :=
  fields.map memberComment ++ [constructorComment fields]
    ++ (deserializeViews fields).map (fun _ => readerComment className)
    ++ (serializeViews fields).map fun _ => writerComment

theorem gathers : Gathers vocabulary statementDocs docs where
  nil := by rw [docs]
  cons := fun _ _ => by rw [docs]
  doc := fun _ => by rw [vocabulary, statementDocs]
  blank := by simp [vocabulary, statementDocs]

/-- The comments of a file are those made for its class, less the empty ones. -/
theorem docs_fileStatements (php : PhpSection) (fields : List Field) :
    docs (fileStatements php fields)
      = (comments php.className fields).filter fun made => !made.isEmpty := by
  have hmember : ∀ field, docs (memberBlock field)
      = [memberComment field].filter fun made => !made.isEmpty := by
    intro field
    rw [memberBlock, documented_eq]
    exact gathers.documented (by simp [statementDocs]) _
  have hconstructor : docs (constructorBlock php.className fields)
      = [constructorComment fields].filter fun made => !made.isEmpty := by
    rw [constructorBlock, documented_eq]
    refine gathers.documented ?_ _
    rw [statementDocs]
    exact gathers.eq_nil (List.forall_mem_map.mpr fun _ _ => by simp [statementDocs])
  -- What a method does carries no comment, so each block has the one it was given.
  have hreader : ∀ view, docs (readerBlock php.className view)
      = [readerComment php.className].filter fun made => !made.isEmpty := by
    intro view
    rw [readerBlock, documented_eq]
    exact gathers.documented (by simp [statementDocs, docs]) _
  have hwriter : ∀ view, docs (writerBlock php.className view)
      = [writerComment].filter fun made => !made.isEmpty := by
    intro view
    rw [writerBlock, documented_eq]
    exact gathers.documented (by simp [statementDocs, docs]) _
  have hothers : ((deserializeViews fields).map (readerBlock php.className)
      ++ (serializeViews fields).map (writerBlock php.className)).flatMap docs
      = ((deserializeViews fields).map (fun _ => readerComment php.className)
        ++ (serializeViews fields).map fun _ => writerComment).filter
          fun made => !made.isEmpty := by
    rw [List.flatMap_append, Gathers.blocks hreader, Gathers.blocks hwriter, List.filter_append]
  have hbody : docs (separateBlocks (classBlocks php.className fields))
      = (comments php.className fields).filter fun made => !made.isEmpty := by
    have hclass := gathers.class_body hmember hconstructor hothers fields
    rw [separateBlocks_eq]
    simpa only [classBlocks, comments, List.append_assoc] using hclass
  simp [fileStatements, docs, statementDocs, hbody]

/-- A comment is printed as its lines in their frame. -/
theorem docText_eq_framed (comment : DocComment) : docText comment = comment.framed := by
  have hjoin : ∀ lines : List String, String.join (lines.map docLine) ++ " */"
      = "\n".intercalate (lines.map DocComment.frame ++ [" */"]) := by
    intro lines
    induction lines with
    | nil => simp
    | cons line lines ih =>
        have hline : docLine line = DocComment.frame line ++ "\n" := by
          unfold docLine DocComment.frame
          by_cases hempty : line = ""
          · simp [hempty]
          · simp [hempty]
        rw [List.map_cons, String.join_cons, String.append_assoc, ih, hline, List.map_cons,
          List.cons_append, String.intercalate_cons_of_ne_nil (by simp)]
  unfold docText DocComment.framed
  rw [docLines_eq, String.append_assoc, hjoin, String.intercalate_cons_of_ne_nil (by simp)]
  rfl

end Php

namespace TypeScript

open Code Spec Generate

theorem docLines_eq (comment : DocComment) : docLines comment = comment.lines := rfl

mutual

/-- The comments in a statement. -/
def statementDocs : Statement → List DocComment
  | .doc comment => [comment]
  | .classDecl _ _ members => docs members
  | .method _ body => docs body
  | _ => []

/-- The comments among statements, in order. -/
def docs : List Statement → List DocComment
  | [] => []
  | statement :: statements => statementDocs statement ++ docs statements

end

/-- The comment of a member. -/
def memberComment (field : Field) : DocComment := ⟨field.comment, []⟩

/-- The comment of the constructor. -/
def constructorComment (fields : List Field) : DocComment :=
  ⟨none, fields.map fun field => paramTag field.name field.comment⟩

/-- The comments that are made for a class. Readers and writers have none. -/
def comments (fields : List Field) : List DocComment :=
  fields.map memberComment ++ [constructorComment fields]

theorem gathers : Gathers vocabulary statementDocs docs where
  nil := by rw [docs]
  cons := fun _ _ => by rw [docs]
  doc := fun _ => by rw [vocabulary, statementDocs]
  blank := by simp [vocabulary, statementDocs]

/-- The comments of a file are those made for its class, less the empty ones. -/
theorem docs_fileStatements (ts : TsSection) (fields : List Field) :
    docs (fileStatements ts fields) = (comments fields).filter fun made => !made.isEmpty := by
  have hmember : ∀ field, docs (memberBlock field)
      = [memberComment field].filter fun made => !made.isEmpty := by
    intro field
    rw [memberBlock, documented_eq]
    exact gathers.documented (by simp [statementDocs]) _
  have hconstructor : docs (constructorBlock ts.className fields)
      = [constructorComment fields].filter fun made => !made.isEmpty := by
    rw [constructorBlock, documented_eq]
    refine gathers.documented ?_ _
    rw [statementDocs]
    exact gathers.eq_nil (List.forall_mem_map.mpr fun _ _ => by simp [statementDocs])
  have hothers : ((deserializeViews fields).map (readerBlock ts.className)
      ++ (serializeViews fields).map (writerBlock ts.className)).flatMap docs
      = ([] : List DocComment).filter fun made => !made.isEmpty := by
    rw [List.flatMap_append, List.filter_nil, List.append_eq_nil_iff, List.flatMap_eq_nil_iff,
      List.flatMap_eq_nil_iff, List.forall_mem_map, List.forall_mem_map]
    constructor
    · intro view _
      simp [readerBlock, statementDocs, docs]
    · intro view _
      simp [writerBlock, statementDocs, docs]
  have hbody : docs ((classBlocks ts.className fields).foldl addBlock [])
      = (comments fields).filter fun made => !made.isEmpty := by
    have hclass := gathers.class_body hmember hconstructor hothers fields
    rw [foldl_addBlock_eq, (inOrder_classBlocks ts.className fields).laidOut.2]
    simpa only [classBlocks, comments, List.append_assoc, List.append_nil] using hclass
  simp [fileStatements, docs, statementDocs, hbody]

/-- A comment with something to say is printed as its lines in their frame. -/
theorem docText_eq_framed {comment : DocComment} (hcomment : comment.isEmpty = false) :
    docText comment = comment.framed := by
  have hlines : comment.lines.map DocComment.frame ≠ [] := by
    rw [ne_eq, List.map_eq_nil_iff, comment.lines_eq_nil_iff, hcomment]
    exact Bool.false_ne_true
  have hframe : docLine = DocComment.frame := rfl
  unfold docText DocComment.framed
  rw [docLines_eq, hframe, String.intercalate_cons_of_ne_nil (by simp),
    String.intercalate_append_of_ne_nil hlines (by simp), String.intercalate_singleton]
  simp only [String.append_assoc]
  rfl

end TypeScript

namespace Generate

open Code

/-- Both grammars print the same for a comment exactly if it has something to say. -/
theorem docText_eq_docText_iff (comment : DocComment) :
    Php.docText comment = TypeScript.docText comment ↔ comment.isEmpty = false := by
  constructor
  · intro hsame
    by_contra hempty
    have hlines : comment.lines = [] :=
      comment.lines_eq_nil_iff.mpr (Bool.not_eq_false _ ▸ hempty)
    -- One text has an empty line that the other does not have.
    unfold Php.docText TypeScript.docText at hsame
    rw [Php.docLines_eq, TypeScript.docLines_eq, hlines] at hsame
    exact absurd hsame (by decide)
  · intro hcomment
    rw [Php.docText_eq_framed, TypeScript.docText_eq_framed hcomment]

end Generate

end ClassForge
