import ClassForge.Proofs.Generate.Comments
import ClassForge.Proofs.Php.Written
import ClassForge.Proofs.TypeScript.Written

/-!
# Layout Shared by Both Grammars

Two pieces of layout are written twice, once for every grammar: the elements of a literal
and the frame of a documentation comment. Neither is the copy of the other. A wrapped
literal has its lead once in the separator and once in front of every element, and the two
compare its width with the limit from opposite sides. The lines of a comment end with line
feeds here and have them between them there.

The elements of literals are laid out the same in any case, since a list of elements that
is too long for one line is not empty. Comments are only framed the same if they have
something to say, and it is the generators that see to that.

## Main definitions

* `Literal.body`: What stands between the brackets of a literal, whatever these are.

## Theorems

* `Php.arrayText_eq_body`, `TypeScript.literalText_eq_body`: Literals, up to their brackets.
* `print_literal`: What a printer of literals makes of the texts of its elements.
* `grammars_share_layout`: Both grammars lay out the same, and in comments they never differ.
-/

namespace ClassForge

namespace Code

open Print

namespace Literal

/-- What stands between the brackets of a literal, if the lead that it may need can be
    held. -/
def body (lead : Except Overflow String) (elements : List String) : Except Overflow String :=
  if Wraps elements then lead.map fun lead => inside lead elements
  else .ok (", ".intercalate elements)

/-- The draft of a literal between its brackets. -/
def draft (frame : String → String) (elements : List String) : Draft String where
  asks := decide (Wraps elements)
  value := fun lead => frame (inside lead elements)
  steady := by
    intro hasks lead
    rw [decide_eq_false_iff_not] at hasks
    rw [inside_of_not_wraps hasks, inside_of_not_wraps hasks]

theorem settle_draft (config : Config) (frame : String → String) (elements : List String) :
    (draft frame elements).settle config = (body (config.indent.process 1) elements).map frame := by
  unfold Draft.settle body draft
  by_cases hwraps : Wraps elements
  · simp only [hwraps, decide_true, if_true]
    cases config.indent.process 1 <;> rfl
  · simp only [hwraps, decide_false, Bool.false_eq_true, if_false, inside_of_not_wraps hwraps]
    rfl

/-- A printer that lays out the elements of a literal between brackets. -/
theorem print_literal {printer : Printer} {frame : String → String}
    {lay : Indent → List String → Except Overflow String}
    (hkind : printer.kind ≠ .statementSequence)
    (hlayout : ∀ (scope : Scope) (view : View), printer.layout scope view
      = scope.texts.bind fun parts => Layout.ofSize (lay view.config.indent parts))
    (hlay : ∀ indent parts, lay indent parts = (body (indent.process 1) parts).map frame)
    (config : Config) (name : String) (elements : List String) :
    ((Outline.node printer (elements.map (Outline.text name))).print
        (.initial config [.indent, .trace])).map Prod.fst
      = (body (config.indent.process 1) elements).map fun text => .ok (frame text) := by
  have htexts : List.Forall₂ (Outline.Drafts .usual config) (elements.map (Outline.text name))
      (elements.map Draft.fixed) :=
    Outline.drafts_map fun text _ => Outline.drafts_text .usual config name text
  have hsettle : (draft frame elements).settle config
      = ((Draft.all (elements.map Draft.fixed)).settle config).bind (lay config.indent) := by
    rw [settle_draft, Draft.all_fixed, ← hlay]
    rfl
  rw [← Watchers.middlewares_usual,
    Outline.print_of_draws (Outline.drafts_measured hkind hlayout hsettle htexts), settle_draft]
  cases body (config.indent.process 1) elements <;> rfl

end Literal

end Code

namespace Php

open Code Print

/-- The elements of an array literal. -/
theorem arrayText_eq_body (indent : Indent) (elements : List String) :
    arrayText indent elements
      = (Literal.body (indent.process 1) elements).map fun text => "array(" ++ text ++ ")" := by
  rw [arrayText_eq false]
  unfold Dialect.literal Literal.body
  by_cases hwraps : Literal.Wraps elements
  · rw [if_pos hwraps, if_pos hwraps]
    cases indent.process 1 <;> rfl
  · rw [if_neg hwraps, if_neg hwraps]
    rfl

theorem print_doc (config : Config) (comment : DocComment) :
    ((statementOutline (.doc comment)).print (.initial config [.indent, .trace])).map Prod.fst
      = .ok (.ok (docText comment)) := by
  rw [statementOutline]
  exact Outline.print_of_draws (Outline.drafts_text .usual config _ (docText comment))

end Php

namespace TypeScript

open Code Print

/-- The elements of a literal, whatever its brackets. -/
theorem literalText_eq_body (opening closing : String) (indent : Indent) (elements : List String) :
    literalText opening closing indent elements
      = (Literal.body (indent.process 1) elements).map fun text => opening ++ text ++ closing := by
  unfold literalText Literal.body
  by_cases hwraps : Literal.Wraps elements
  · have hlong := mt (literalWidth_le_iff elements).mp (not_not.mpr hwraps)
    rw [if_neg hlong, if_pos hwraps]
    cases indent.process 1 with
    | error cause => rfl
    | ok lead =>
        simp only [Except.map, Literal.inside, if_pos hwraps, String.append_assoc]
        rfl
  · have hshort := (literalWidth_le_iff elements).mpr hwraps
    rw [if_pos hshort, if_neg hwraps]
    rfl

theorem print_doc (config : Config) (comment : DocComment) :
    ((statementOutline (.doc comment)).print (.initial config [.indent, .trace])).map Prod.fst
      = .ok (.ok (docText comment)) := by
  rw [statementOutline]
  exact Outline.print_of_draws (Outline.drafts_text .usual config _ (docText comment))

end TypeScript

namespace Generate

open Code Print

/-- The layout that both grammars have. Their printers of literals put the same between
    their brackets, for all texts of elements and every configuration. Their printers of
    comments print the same exactly if there is something to say, and in every file that is
    generated from a spec this is the case for all comments. -/
theorem grammars_share_layout :
    (∀ (config : Config) (name opening closing : String) (elements : List String),
      let parts := elements.map (Outline.text name)
      let body := Literal.body (config.indent.process 1) elements
      ((Outline.node Php.Printers.array parts).print
            (.initial config [.indent, .trace])).map Prod.fst
          = body.map (fun text => .ok ("array(" ++ text ++ ")")) ∧
        ((Outline.node (TypeScript.Printers.literal opening closing) parts).print
            (.initial config [.indent, .trace])).map Prod.fst
          = body.map fun text => .ok (opening ++ text ++ closing)) ∧
      (∀ (config : Config) (comment : DocComment),
        ∃ inPhp inTs,
          ((Php.statementOutline (.doc comment)).print
              (.initial config [.indent, .trace])).map Prod.fst = .ok (.ok inPhp) ∧
            ((TypeScript.statementOutline (.doc comment)).print
              (.initial config [.indent, .trace])).map Prod.fst = .ok (.ok inTs) ∧
            (inPhp = inTs ↔ comment.isEmpty = false)) ∧
      ∀ spec : Spec,
        (∀ php, spec.php = .ok php →
          outline .php spec = .ok (Php.fileOutline (Php.fileStatements php spec.fields)) ∧
            ∀ comment ∈ Php.docs (Php.fileStatements php spec.fields),
              comment.isEmpty = false) ∧
        ∀ ts, spec.ts = .ok ts →
          outline .ts spec
              = .ok (TypeScript.fileOutline (TypeScript.fileStatements ts spec.fields)) ∧
            ∀ comment ∈ TypeScript.docs (TypeScript.fileStatements ts spec.fields),
              comment.isEmpty = false := by
  refine ⟨fun config name opening closing elements => ⟨?_, ?_⟩, fun config comment => ?_,
    fun spec => ⟨fun php hphp => ⟨outline_php hphp, ?_⟩, fun ts hts => ⟨outline_ts hts, ?_⟩⟩⟩
  · exact Literal.print_literal (fun hkind => by cases hkind) (fun _ _ => rfl)
      Php.arrayText_eq_body config name elements
  · exact Literal.print_literal (fun hkind => by cases hkind) (fun _ _ => rfl)
      (TypeScript.literalText_eq_body opening closing) config name elements
  · exact ⟨_, _, Php.print_doc config comment, TypeScript.print_doc config comment,
      docText_eq_docText_iff comment⟩
  · intro comment hcomment
    rw [Php.docs_fileStatements, List.mem_filter] at hcomment
    simpa using hcomment.2
  · intro comment hcomment
    rw [TypeScript.docs_fileStatements, List.mem_filter] at hcomment
    simpa using hcomment.2

/-- A class with a field that nothing is said about: it has comments in both grammars. -/
theorem grammars_share_layout_plain_field :
    let spec : Spec := ⟨"out", ⟨some ⟨"App", "Item"⟩, some ⟨"Item"⟩⟩, [.plain "id" "integer"]⟩
    let inPhp := Php.docs (Php.fileStatements ⟨"App", "Item"⟩ spec.fields)
    let inTs := TypeScript.docs (TypeScript.fileStatements ⟨"Item"⟩ spec.fields)
    spec.php = .ok ⟨"App", "Item"⟩ ∧ spec.ts = .ok ⟨"Item"⟩ ∧
      inPhp.length = 4 ∧ (∀ comment ∈ inPhp, comment.isEmpty = false) ∧
      inTs.length = 1 ∧ ∀ comment ∈ inTs, comment.isEmpty = false := by
  intro spec inPhp inTs
  obtain ⟨-, -, hspec⟩ := grammars_share_layout
  refine ⟨rfl, rfl, ?_, ((hspec spec).1 ⟨"App", "Item"⟩ rfl).2, ?_, ((hspec spec).2 ⟨"Item"⟩ rfl).2⟩
  · change (Php.docs (Php.fileStatements ⟨"App", "Item"⟩ spec.fields)).length = 4
    rw [Php.docs_fileStatements]
    rfl
  · change (TypeScript.docs (TypeScript.fileStatements ⟨"Item"⟩ spec.fields)).length = 1
    rw [TypeScript.docs_fileStatements]
    rfl

end Generate

end ClassForge
