import Mathlib.Data.List.Basic
import ClassForge.Print.Middleware
import ClassForge.Proofs.Text.Indentation

/-!
# Leads in Front of Lines

A text that is indented twice, by an inner sequence of statements and then as a part of
an outer one, looks as if it had been indented once, by both leads in a row. This is what
lets a sequence know about nothing but its own level. The middleware that indents takes
two shortcuts, one for an empty lead and one for an empty text, and splits everything
else at its line feeds, wherever they are. The equations hold in spite of the shortcuts,
and on texts that start or end with line feeds.

A lead without line feeds makes no new lines, so it can be taken away again from each
line of what was made. With a line feed in it that would fail: the second line of such a
lead looks like a line of the text.

## Main definitions

* `Text.withoutLead`, `Text.unled`: A line, and all lines of a text, with a lead taken
  away.
* `Context.LeadsBy`: A frame in which a sequence is printed with a lead.

## Theorems

* `Text.length_lines`: A text has one line more than it has line feeds.
* `Text.indented_indented`, `Text.count_indented`, `Text.unled_indented`,
  `Text.indented_break`: Two leads, line feeds, taking a lead away, and two texts.
* `Context.LeadsBy.transform_eq`, `Context.exists_leadsBy`: The middleware that indents,
  and frames for it.
* `leads_act_on_lines`: All of this.
-/

namespace ClassForge

namespace Text

/-- A line with a lead taken away from its front, if it starts with that lead. -/
def withoutLead (lead line : String) : String :=
  String.ofList ((line.toList.dropPrefix? lead.toList).getD line.toList)

/-- A text with a lead taken away from the front of each of its lines. -/
def unled (lead text : String) : String :=
  "\n".intercalate ((lines text).map (withoutLead lead))

theorem withoutLead_append (lead line : String) : withoutLead lead (lead ++ line) = line := by
  rw [withoutLead, String.toList_append, List.dropPrefix?_append_of_beq _ BEq.rfl,
    Option.getD_some, String.ofList_toList]

/-- A text has one line more than it has line feeds. -/
theorem length_lines (text : String) : (lines text).length = text.toList.count '\n' + 1 := by
  rw [lines, List.length_map]
  induction text.toList with
  | nil => rfl
  | cons c chars ih =>
      rw [List.splitOn_cons_eq_if_modifyHead, List.count_cons]
      -- A line feed opens a line, any other character only makes the first one longer.
      split
      · rw [List.length_cons, ih]
      · rw [List.length_modifyHead, ih]

section Leads

variable {lead : String}

theorem indented_empty (text : String) : indented "" text = text := by
  rw [← leadLines_eq_indented, leadLines, if_pos (Or.inl rfl)]

/-- Two leads, one after the other, are one lead. Only the lead that comes first could
    make lines that the other one would find. -/
theorem indented_indented (outer : String) {inner : String} (hinner : '\n' ∉ inner.toList)
    (text : String) : indented outer (indented inner text) = indented (outer ++ inner) text := by
  by_cases htext : text = ""
  · rw [htext, indented, indented, indented, if_pos rfl, if_pos rfl, if_pos rfl]
  · have hinside : indented inner text ≠ "" := fun h => htext ((indented_eq_empty_iff _ _).mp h)
    rw [indented, if_neg hinside, lines_indented hinner htext, indented, if_neg htext,
      List.map_map]
    congr 2
    funext line
    exact (String.append_assoc ..).symm

/-- Indenting makes no line feeds. -/
theorem count_indented (hlead : '\n' ∉ lead.toList) (text : String) :
    (indented lead text).toList.count '\n' = text.toList.count '\n' := by
  by_cases htext : text = ""
  · rw [htext, indented, if_pos rfl]
  · have hlines := length_lines (indented lead text)
    rw [lines_indented hlead htext, List.length_map, length_lines] at hlines
    omega

theorem unled_indented (hlead : '\n' ∉ lead.toList) {text : String} (htext : text ≠ "") :
    unled lead (indented lead text) = text := by
  have hback : withoutLead lead ∘ (lead ++ ·) = id := by
    funext line
    exact withoutLead_append lead line
  rw [unled, lines_indented hlead htext, List.map_map, hback, List.map_id, intercalate_lines]

/-- Texts with a line feed between them are indented one by one. Both have lines, even if
    these are empty, so neither is left out. -/
theorem indented_break (lead : String) {text more : String} (htext : text ≠ "")
    (hmore : more ≠ "") :
    indented lead (text ++ "\n" ++ more) = indented lead text ++ "\n" ++ indented lead more := by
  have hboth : text ++ "\n" ++ more ≠ "" := by
    intro hempty
    exact hmore (String.append_eq_empty_iff.mp hempty).2
  rw [indented, if_neg hboth, lines_break, List.map_append,
    String.intercalate_append_of_ne_nil (by simpa using lines_ne_nil text)
      (by simpa using lines_ne_nil more),
    indented, if_neg htext, indented, if_neg hmore]

end Leads

end Text

namespace Print

namespace Context

/-- A frame in which a sequence of statements is printed, with this lead. -/
structure LeadsBy (context : Context Middleware) (lead : String) : Prop where
  own : context.stack.head? = some .statementSequence
  lead_eq : context.lead = .ok lead

theorem LeadsBy.transform_eq {context : Context Middleware} {lead : String}
    (h : context.LeadsBy lead) (text : String) :
    Middleware.hooks.transform .indent context text = pure (Text.leadLines lead text) := by
  change (liftM (context.indentText text) : Effect Journal String) = _
  rw [indentText, if_pos h.own, h.lead_eq]
  rfl

/-- Any text that can be held is the lead of some frame. -/
theorem exists_leadsBy {lead : String} (hbytes : lead.utf8ByteSize ≤ maxBytes) :
    ∃ context : Context Middleware, context.LeadsBy lead := by
  -- One column a level, and the text itself for a filler.
  let config : Config := ⟨1, ⟨lead, 1, by decide⟩⟩
  refine ⟨((initial config []).adjust (Settings.withSize 1)).enter .statementSequence, rfl, ?_⟩
  have hcount : config.indent.style.count config.indent.size = 1 := by
    change ((1 : Size) / 1).toNat = 1
    decide
  have hlead : lead = Text.repeated lead 1 := by
    rw [Text.repeated]
    split
    · assumption
    · exact String.empty_append.symm
  change config.indent.process 1 = .ok lead
  rw [Indent.process_one, IndentStyle.fill_eq_ok_iff, hcount, Nat.mul_one]
  exact ⟨hbytes, hlead⟩

end Context

open Text

/-- What the middleware that indents makes of the text of a sequence depends on nothing but
    the lead of the frame, and everything that can be held is the lead of some frame. Leads
    without line feeds act on texts. The empty lead changes nothing, and two leads one after
    the other are one. The lines stay as many as they were, and give back the text when the
    lead is taken away from each. Texts with a line feed between them are indented one by
    one. -/
theorem leads_act_on_lines :
    (∀ (context : Context Middleware) (lead text : String), context.LeadsBy lead →
      Middleware.hooks.transform .indent context text = pure (leadLines lead text)) ∧
    (∀ lead : String, lead.utf8ByteSize ≤ maxBytes →
      ∃ context : Context Middleware, context.LeadsBy lead) ∧
    ∀ outer inner : String, '\n' ∉ outer.toList → '\n' ∉ inner.toList → ∀ text,
      leadLines "" text = text ∧
      leadLines outer (leadLines inner text) = leadLines (outer ++ inner) text ∧
      (leadLines outer text).toList.count '\n' = text.toList.count '\n' ∧
      (text ≠ "" → unled outer (leadLines outer text) = text) ∧
      ∀ more, text ≠ "" → more ≠ "" →
        leadLines outer (text ++ "\n" ++ more)
          = leadLines outer text ++ "\n" ++ leadLines outer more := by
  refine ⟨fun context lead text h => h.transform_eq text,
    fun lead hbytes => Context.exists_leadsBy hbytes, fun outer inner houter hinner text => ?_⟩
  simp only [leadLines_eq_indented]
  exact ⟨indented_empty text, indented_indented outer hinner text, count_indented houter text,
    unled_indented houter, fun more => indented_break outer⟩

/-- A text between line feeds, first behind two spaces and then behind a tab. -/
theorem leads_act_on_framed_line :
    let inner := ((Context.initial ⟨2, .space⟩ [.indent]).adjust
      (Settings.withSize 1)).enter .statementSequence
    let outer := ((Context.initial ⟨4, .tab 4⟩ [.indent]).adjust
      (Settings.withSize 1)).enter .statementSequence
    inner.LeadsBy "  " ∧ outer.LeadsBy "\t" ∧
      Middleware.hooks.transform .indent inner "\nx\n" = pure "  \n  x\n  " ∧
      Middleware.hooks.transform .indent outer "  \n  x\n  " = pure "\t  \n\t  x\n\t  " ∧
      leadLines "\t" (leadLines "  " "\nx\n") = leadLines "\t  " "\nx\n" ∧
      unled "\t" (leadLines "\t" "\nx\n") = "\nx\n" ∧
      leadLines "\t" ("\nx\n" ++ "\n" ++ "y") = "\t\n\tx\n\t\n\ty" := by
  intro inner outer
  have hinner : inner.LeadsBy "  " := ⟨rfl, by decide +kernel⟩
  have houter : outer.LeadsBy "\t" := ⟨rfl, by decide +kernel⟩
  rcases leads_act_on_lines with ⟨htransform, -, hlaws⟩
  rcases hlaws "\t" "  " (by decide) (by decide) "\nx\n" with ⟨-, htwice, -, hundone, hbreak⟩
  have hspaces : leadLines "  " "\nx\n" = "  \n  x\n  " := by decide +kernel
  have htabs : leadLines "\t" "  \n  x\n  " = "\t  \n\t  x\n\t  " := by decide +kernel
  refine ⟨hinner, houter, ?_, ?_, htwice, hundone (by decide),
    (hbreak "y" (by decide) (by decide)).trans (by decide +kernel)⟩
  · rw [htransform inner "  " _ hinner, hspaces]
  · rw [htransform outer "\t" _ houter, htabs]

end Print

end ClassForge
