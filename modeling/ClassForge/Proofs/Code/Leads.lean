import ClassForge.Proofs.Php.Written
import ClassForge.Proofs.Text.LeadingBlanks
import ClassForge.Proofs.TypeScript.Written

/-!
# What Indentation can Change

With fillers of spaces and tabs, the configuration of a rendering decides about
leading blanks and nothing else: printed under two such configurations, a file
has the same lines up to the blanks in front of them.

There are two places where a lead could do more harm than that. A literal is
laid out by the lengths of its elements, and these contain leads if they are
themselves on several lines; and a method leaves out the line of its body if the
indented body is empty. The first is settled by `wraps_elementTexts`, where
whether a literal wraps is seen not to depend on the lead, the second by texts
that are alike being empty together. Everything else follows the recursion of
the written texts, with `Alike` kept at each step.

## Main definitions

* `Printed`: The text that printing an outline gives.
* `SameButLeads`: Printed twice, an outline only differs in leading blanks.
* `SameWrapping`: Printed twice, the elements of a literal need several lines
  under both configurations or under none.

## Theorems

* `alike_expressionText`: Expressions under two blank leads.
* `Code.Writing.alike_text`: Statements under two blank leads.
* `printed_under_blank_fillers`: Printing under two configurations.
-/

namespace ClassForge

open Print Code

section Pieces

variable {lead lead' : String}

open Text

/-- Indented bodies between braces, under two leads. -/
theorem alike_braced (front : String) (hlead : Blank lead) (hlead' : Blank lead')
    {body body' : String} (h : Alike body body') :
    Alike (front ++ " \x7b\n" ++ indented lead body ++ "\n\x7d")
      (front ++ " \x7b\n" ++ indented lead' body' ++ "\n\x7d") := by
  -- The line feed belongs to the body: only behind it is the lead a leading blank.
  have hbreak : ∀ text, front ++ " \x7b\n" ++ text = front ++ " \x7b" ++ ("\n" ++ text) := by
    intro text
    have hbrace : " \x7b\n" = " \x7b" ++ "\n" := rfl
    rw [hbrace]
    simp only [String.append_assoc]
  have hbodies : Alike ("\n" ++ body) ("\n" ++ body') := (Alike.refl "\n").append h
  have hindented : Alike ("\n" ++ indented lead body) ("\n" ++ indented lead' body') :=
    ((alike_indented hlead body).trans hbodies).trans (alike_indented hlead' body').symm
  rw [hbreak, hbreak]
  exact ((Alike.refl _).append hindented).append (Alike.refl _)

theorem alike_blockText (hlead : Blank lead) (hlead' : Blank lead') {body body' : String}
    (h : Alike body body') : Alike (blockText lead body) (blockText lead' body') := by
  unfold blockText
  by_cases hbody : body = ""
  · rw [if_pos hbody, if_pos (h.eq_empty_iff.mp hbody)]
    exact Alike.refl _
  · rw [if_neg hbody, if_neg fun hbody' => hbody (h.eq_empty_iff.mpr hbody')]
    have hbraced := alike_braced "" hlead hlead' h
    rwa [String.empty_append] at hbraced

/-- The line feed of a separator goes with what stands behind it. -/
theorem break_intercalate_cons (lead first second : String) (rest : List String) :
    "\n" ++ ",\n".intercalate ((first :: second :: rest).map (lead ++ ·))
      = "\n" ++ (lead ++ first) ++ ","
        ++ ("\n" ++ ",\n".intercalate ((second :: rest).map (lead ++ ·))) := by
  have hseparator : ",\n" = "," ++ "\n" := rfl
  rw [List.map_cons, List.map_cons, String.intercalate_cons_cons]
  simp only [hseparator, String.append_assoc]

/-- Elements on lines of their own, under two leads. -/
theorem alike_intercalate_leads (hlead : Blank lead) (hlead' : Blank lead')
    {texts others : List String} (h : List.Forall₂ Alike texts others) :
    Alike ("\n" ++ ",\n".intercalate (texts.map (lead ++ ·)))
      ("\n" ++ ",\n".intercalate (others.map (lead' ++ ·))) := by
  have hbreak : Alike ("\n" ++ lead) ("\n" ++ lead') :=
    (alike_break hlead).trans (alike_break hlead').symm
  induction h with
  | nil => exact Alike.refl _
  | @cons text other texts others hfirst hrest ih =>
      -- Each element goes with the line feed in front of it.
      have hfront : Alike ("\n" ++ (lead ++ text)) ("\n" ++ (lead' ++ other)) := by
        rw [← String.append_assoc, ← String.append_assoc]
        exact hbreak.append hfirst
      cases hrest with
      | nil =>
          rw [List.map_cons, List.map_cons, List.map_nil, List.map_nil,
            String.intercalate_singleton, String.intercalate_singleton]
          exact hfront
      | @cons next next' texts others hsecond hrest =>
          rw [break_intercalate_cons, break_intercalate_cons]
          exact (hfront.append (Alike.refl ",")).append ih

theorem alike_inside (hlead : Blank lead) (hlead' : Blank lead') {texts others : List String}
    (hwraps : Literal.Wraps texts ↔ Literal.Wraps others)
    (h : List.Forall₂ Alike texts others) :
    Alike (Literal.inside lead texts) (Literal.inside lead' others) := by
  unfold Literal.inside
  by_cases htexts : Literal.Wraps texts
  · rw [if_pos htexts, if_pos (hwraps.mp htexts)]
    exact (alike_intercalate_leads hlead hlead' h).append (Alike.refl "\n")
  · rw [if_neg htexts, if_neg fun hothers => htexts (hwraps.mpr hothers)]
    exact Alike.intercalate ", " h

end Pieces

section Expressions

variable {dialect : Dialect} {lead lead' : String}

open Text

mutual

/-- An expression under two blank leads. -/
theorem alike_expressionText (hlead : Blank lead) (hlead' : Blank lead') :
    (expression : Expression) →
    Alike (expressionText dialect lead expression) (expressionText dialect lead' expression)
  | .raw .. | .access _ | .variable _ => by
    rw [expressionText, expressionText]
    exact Alike.refl _
  | .invoke callable _ parameters => by
    have hparameters := Alike.intercalate ", " (alike_expressionTexts hlead hlead' parameters)
    rw [expressionText, expressionText]
    exact ((Alike.refl _).append hparameters).append (Alike.refl _)
  | .compare operator left right => by
    rw [expressionText, expressionText]
    refine Alike.append ?_ (alike_expressionText hlead hlead' right)
    refine Alike.append (Alike.append ?_ (Alike.refl _)) (Alike.refl _)
    exact (alike_expressionText hlead hlead' left).append (Alike.refl _)
  | .conditional condition whenTrue whenFalse => by
    rw [expressionText, expressionText]
    refine Alike.append (Alike.append ?_ (Alike.refl _))
      (alike_expressionText hlead hlead' whenFalse)
    exact ((alike_expressionText hlead hlead' condition).append (Alike.refl _)).append
      (alike_expressionText hlead hlead' whenTrue)
  | .array isDictionary elements => by
    -- The elements may have other lengths under the other lead, but not so that
    -- it makes a difference.
    have hwraps : Literal.Wraps (elementTexts dialect lead isDictionary elements)
        ↔ Literal.Wraps (elementTexts dialect lead' isDictionary elements) :=
      (wraps_elementTexts lead isDictionary elements).trans
        (wraps_elementTexts lead' isDictionary elements).symm
    have hinside := alike_inside hlead hlead' hwraps
      (alike_elementTexts hlead hlead' isDictionary elements)
    rw [expressionText, expressionText]
    exact ((Alike.refl _).append hinside).append (Alike.refl _)

theorem alike_expressionTexts (hlead : Blank lead) (hlead' : Blank lead') :
    (expressions : List Expression) →
    List.Forall₂ Alike (expressionTexts dialect lead expressions)
      (expressionTexts dialect lead' expressions)
  | [] => by
    rw [expressionTexts, expressionTexts]
    exact .nil
  | expression :: expressions => by
    rw [expressionTexts, expressionTexts]
    exact .cons (alike_expressionText hlead hlead' expression)
      (alike_expressionTexts hlead hlead' expressions)

theorem alike_elementText (hlead : Blank lead) (hlead' : Blank lead') (isDictionary : Bool) :
    (element : Element) →
    Alike (elementText dialect lead isDictionary element)
      (elementText dialect lead' isDictionary element)
  | .entry key value => by
    rw [elementText, elementText]
    exact (Alike.refl _).append (alike_expressionText hlead hlead' value)

theorem alike_elementTexts (hlead : Blank lead) (hlead' : Blank lead') (isDictionary : Bool) :
    (elements : List Element) →
    List.Forall₂ Alike (elementTexts dialect lead isDictionary elements)
      (elementTexts dialect lead' isDictionary elements)
  | [] => by
    rw [elementTexts, elementTexts]
    exact .nil
  | element :: elements => by
    rw [elementTexts, elementTexts]
    exact .cons (alike_elementText hlead hlead' isDictionary element)
      (alike_elementTexts hlead hlead' isDictionary elements)

end

end Expressions

namespace Code

variable {Statement : Type} {lead lead' : String}

open Text

/-- A line under two blank leads, if that is how the statements inside are. -/
theorem Line.alike_text {own : Printer → Prop} {dialect : Dialect} (hlead : Blank lead)
    (hlead' : Blank lead') {textOf textOf' : Statement → String} (line : Line own Statement)
    (h : ∀ below ∈ line.statements, Alike (textOf below) (textOf' below)) :
    Alike (line.text dialect lead textOf) (line.text dialect lead' textOf') := by
  have hinside : Alike ("\n".intercalate (line.statements.map textOf))
      ("\n".intercalate (line.statements.map textOf')) := Alike.intercalate_map "\n" h
  cases line with
  | fixed | worded => exact Alike.refl _
  | framed front framer members => exact alike_braced _ hlead hlead' hinside
  | signed signature signer words _ arguments body =>
      exact (Alike.refl _).append (alike_blockText hlead hlead' hinside)
  | assigned _ _ value | valued _ _ value =>
      exact ((Alike.refl _).append (alike_expressionText hlead hlead' value)).append (Alike.refl _)

namespace Writing

variable {grammar : Grammar Statement} (writing : Writing grammar)

/-- A statement under two blank leads. -/
theorem alike_text (hlead : Blank lead) (hlead' : Blank lead') (statement : Statement) :
    Alike (writing.text lead statement) (writing.text lead' statement) := by
  induction statement using grammar.induct with
  | h statement ih =>
      rw [writing.text_eq, writing.text_eq]
      exact Line.alike_text hlead hlead' _ ih

theorem alike_file (hlead : Blank lead) (hlead' : Blank lead') (statements : List Statement) :
    Alike ((writing.file statements).value lead) ((writing.file statements).value lead') := by
  rw [value_file, value_file]
  exact Alike.intercalate_map "\n" fun statement _ => writing.alike_text hlead hlead' statement

end Writing

end Code

/-- The text that printing an outline from a root frame gives. -/
def Printed (config : Config) (outline : Outline) (text : String) : Prop :=
  (outline.print (.initial config [.indent, .trace])).map Prod.fst = .ok (.ok text)

/-- The lead of one level, or none if it is too long to be held. -/
def leadOf (config : Config) : String :=
  match config.indent.process 1 with
  | .ok lead => lead
  | .error _ => ""

/-- Under each of two configurations an outline is printed unless the lead of
    that configuration is too long, and the lines of the two texts only differ
    in leading blanks. -/
structure SameButLeads (first second : Config) (outline : Outline) : Prop where
  /-- The outline is printed under the first configuration. -/
  first_printed : (∃ text, Printed first outline text) ∨
    ∃ cause, first.indent.process 1 = .error cause
  /-- The outline is printed under the second configuration. -/
  second_printed : (∃ text, Printed second outline text) ∨
    ∃ cause, second.indent.process 1 = .error cause
  /-- There are as many lines under both, and they are the same once bare. -/
  lines_same : ∀ text other, Printed first outline text → Printed second outline other →
    List.Forall₂ (fun line line' => Text.bare line = Text.bare line') (Text.lines text)
      (Text.lines other)

/-- The elements of a literal, printed under two configurations, are too long for
    one line under both or under none. -/
def SameWrapping (first second : Config) (elements : List Outline) : Prop :=
  ∀ texts others, List.Forall₂ (Printed first) elements texts →
    List.Forall₂ (Printed second) elements others →
    (Literal.wrapWidth < Literal.width texts ↔ Literal.wrapWidth < Literal.width others)

section Printing

variable {config first second : Config} {outline : Outline} {draft : Draft String}

theorem blank_leadOf (hfiller : Text.Blank config.indent.style.filler) :
    Text.Blank (leadOf config) := by
  intro c hc
  unfold leadOf at hc
  split at hc
  · rename_i lead hlead
    exact hfiller c (Indent.mem_filler_of_process hlead c hc)
  · exact absurd hc (by simp only [String.toList_empty, List.not_mem_nil, not_false_eq_true])

theorem printed_or_overflow
    (hdraft : (outline.print (.initial config [.indent, .trace])).map Prod.fst
      = (draft.settle config).map Except.ok) :
    (∃ text, Printed config outline text) ∨ ∃ cause, config.indent.process 1 = .error cause := by
  cases hlead : config.indent.process 1 with
  | ok lead =>
      refine Or.inl ⟨draft.value lead, ?_⟩
      rw [Printed, hdraft, Draft.settle_of_ok hlead]
      rfl
  | error cause => exact Or.inr ⟨cause, rfl⟩

/-- A printed text is that of its draft, whether or not it asked for the lead. -/
theorem value_of_printed {text : String}
    (hdraft : (outline.print (.initial config [.indent, .trace])).map Prod.fst
      = (draft.settle config).map Except.ok)
    (hprinted : Printed config outline text) : text = draft.value (leadOf config) := by
  rw [Printed, hdraft] at hprinted
  unfold leadOf
  cases hlead : config.indent.process 1 with
  | ok lead =>
      rw [Draft.settle_of_ok hlead] at hprinted
      cases hprinted
      rfl
  | error cause =>
      rw [Draft.settle_of_error hlead] at hprinted
      split at hprinted
      · cases hprinted
      · cases hprinted
        rfl

theorem sameButLeads_of_alike
    (hfirst : Text.Blank first.indent.style.filler)
    (hsecond : Text.Blank second.indent.style.filler)
    (hdraft : ∀ config, (outline.print (.initial config [.indent, .trace])).map Prod.fst
      = (draft.settle config).map Except.ok)
    (halike : ∀ lead lead', Text.Blank lead → Text.Blank lead' →
      Text.Alike (draft.value lead) (draft.value lead')) :
    SameButLeads first second outline := by
  refine ⟨printed_or_overflow (hdraft first), printed_or_overflow (hdraft second), ?_⟩
  -- Both texts are the value of one draft, each under the lead of its own
  -- configuration.
  intro text other htext hother
  rw [value_of_printed (hdraft first) htext, value_of_printed (hdraft second) hother]
  have hlines := (halike _ _ (blank_leadOf hfirst) (blank_leadOf hsecond)).map_bare
  rw [← List.forall₂_eq_eq_eq, List.forall₂_map_left_iff, List.forall₂_map_right_iff] at hlines
  exact hlines

/-- The texts of several outlines are those of their drafts, all under one
    lead. -/
theorem values_of_printed {outlines : List Outline} {drafts : List (Draft String)}
    {texts : List String} (hdrafts : List.Forall₂ (Outline.Drafts .usual config) outlines drafts)
    (hprinted : List.Forall₂ (Printed config) outlines texts) :
    texts = (Draft.all drafts).value (leadOf config) := by
  induction hdrafts generalizing texts with
  | nil =>
      cases hprinted
      rfl
  | cons hdraft _ ih =>
      cases hprinted with
      | cons htext htexts =>
          rw [Draft.value_all_cons, ← ih htexts,
            ← value_of_printed (Outline.print_of_draws hdraft) htext]

theorem sameWrapping_of_drafts {dialect : Dialect} {outlines : List Outline}
    (isDictionary : Bool) (elements : List Element)
    (hdrafts : ∀ config, List.Forall₂ (Outline.Drafts .usual config) outlines
      (elements.map (elementDraft dialect isDictionary))) :
    SameWrapping first second outlines := by
  intro texts others htexts hothers
  rw [values_of_printed (hdrafts first) htexts, values_of_printed (hdrafts second) hothers,
    value_all_elementDraft, value_all_elementDraft]
  exact (wraps_elementTexts (leadOf first) isDictionary elements).trans
    (wraps_elementTexts (leadOf second) isDictionary elements).symm

/-- With fillers of spaces and tabs, indentation decides about leading blanks and
    nothing else. In particular the elements of a literal take several lines
    under both configurations or under none. -/
theorem printed_under_blank_fillers (first second : Config)
    (hfirst : Text.Blank first.indent.style.filler)
    (hsecond : Text.Blank second.indent.style.filler) :
    (∀ statements, SameButLeads first second (Php.fileOutline statements)) ∧
      (∀ statements, SameButLeads first second (TypeScript.fileOutline statements)) ∧
      ∀ isDictionary elements,
        SameWrapping first second (Php.elementOutlines isDictionary elements) ∧
          SameWrapping first second (TypeScript.elementOutlines isDictionary elements) := by
  refine ⟨fun statements => ?_, fun statements => ?_, fun isDictionary elements => ⟨?_, ?_⟩⟩
  · exact sameButLeads_of_alike hfirst hsecond
      (fun config => Php.print_eq_settle config statements)
      fun _ _ hlead hlead' => Php.writing.alike_file hlead hlead' statements
  · exact sameButLeads_of_alike hfirst hsecond
      (fun config => TypeScript.print_eq_settle config statements)
      fun _ _ hlead hlead' => TypeScript.writing.alike_file hlead hlead' statements
  · rw [Php.elementOutlines_eq]
    exact sameWrapping_of_drafts isDictionary elements fun config =>
      Php.wording.drafts_elements .usual config isDictionary elements
  · rw [TypeScript.elementOutlines_eq]
    exact sameWrapping_of_drafts isDictionary elements fun config =>
      TypeScript.wording.drafts_elements .usual config isDictionary elements

theorem filler_ofSpan (filler : String) (span : Size) :
    (IndentStyle.ofSpan filler span).filler = filler := by
  unfold IndentStyle.ofSpan
  split <;> rfl

/-- Four spaces and a tab: a method that returns a literal on several lines, with
    another one inside. -/
theorem printed_under_spaces_and_tabs :
    Text.Blank Config.standard.indent.style.filler ∧
      Text.Blank (Config.mk ⟨4, .tab 4⟩).indent.style.filler ∧
      SameButLeads .standard ⟨4, .tab 4⟩
        (Php.fileOutline [.classDecl "A" [.method ⟨[.publicAccess], "f", .any, []⟩
          [.returns (.list [.list [.raw (String.ofList (List.replicate 81 'x')) .any]])]]]) := by
  have hspaces : Text.Blank Config.standard.indent.style.filler := by
    rw [Config.standard, IndentStyle.space, filler_ofSpan]
    decide
  have htabs : Text.Blank (Config.mk ⟨4, .tab 4⟩).indent.style.filler := by
    rw [IndentStyle.tab, filler_ofSpan]
    decide
  exact ⟨hspaces, htabs, (printed_under_blank_fillers _ _ hspaces htabs).1 _⟩

end Printing

end ClassForge
