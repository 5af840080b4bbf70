import ClassForge.Proofs.Code.Fitting
import ClassForge.Proofs.Print.Tracing

/-!
# Traces of Files

Each printer of a grammar picks its children by hand. Some ask for all of them,
others for the first, the second and the third, each in its own way. A child that
the outline of a construct puts in and its printer never asks for would be missing
from every text, and one that is asked for twice would be there twice. Neither
happens in either grammar, and the trace shows it: it has one note for every slot
of the arena.

A file may still be given up, where the lead of one level is too long to be held. Which
files are, depends on whether anything is indented: if so, each class and each method needs
the lead, and otherwise only a literal that takes several lines does.

## Theorems

* `Code.Writing.print_traced_eq_error_iff`: When printing is given up.
* `files_leave_whole_traces`: Printing a file with the trace.
* `empty_class_leaves_no_trace`: There are leads for which printing a file is given
  up.
-/

namespace ClassForge

open Print Outline

namespace Code

/-- With the trace and indentation in front of it and behind it, printing a file is given up
    exactly if one level has no lead and somebody needs it. -/
theorem Writing.print_traced_eq_error_iff {Statement : Type} {grammar : Grammar Statement}
    (writing : Writing grammar) (config : Config) (before after : Nat)
    (statements : List Statement) (cause : Overflow) :
    (Outline.file (grammar.outlines statements)).print (.initial config
        (List.replicate before .indent ++ .trace :: List.replicate after .indent)) = .error cause
      ↔ config.indent.process 1 = .error cause ∧
        statements.any (if before + after = 0 then writing.wraps else writing.asks) = true := by
  have hiff := writing.print_file_eq_error_iff (.around before after) config statements cause
  have hneeds : (fun statement => if (Watchers.around before after).indents = 0
      then writing.wraps statement else writing.asks statement)
      = if before + after = 0 then writing.wraps else writing.asks := by
    rw [Watchers.indents_around]
    by_cases hnone : before + after = 0
    · simp only [hnone, if_true]
    · simp only [hnone, if_false]
  rw [hneeds] at hiff
  rw [← hiff]
  -- An overflow leaves no journal behind, so forgetting the journal changes nothing.
  change _ ↔ Except.map Prod.fst (Outline.print _ (.initial config
    (List.replicate before .indent ++ .trace :: List.replicate after .indent))) = _
  cases (Outline.file (grammar.outlines statements)).print (.initial config
      (List.replicate before .indent ++ .trace :: List.replicate after .indent)) with
  | error other => simp only [Except.map, Except.error.injEq]
  | ok printed => simp only [Except.map, reduceCtorEq]

end Code

/-- Printing a file of either grammar with the trace, alone or with indentation in
    front of it or behind it, notes every slot of its arena once, in postorder, with
    the depth of the slot. It is only given up if one level has no lead, and then exactly
    if somebody needs it: a literal that takes several lines or, if anything is indented,
    a class or a method. -/
theorem files_leave_whole_traces (config : Config) (before after : Nat) :
    let root := Context.initial config
      (List.replicate before .indent ++ .trace :: List.replicate after .indent)
    (∀ statements, (Php.fileOutline statements).LeavesTrace root) ∧
      (∀ statements, (TypeScript.fileOutline statements).LeavesTrace root) ∧
      (∀ statements cause, (Php.fileOutline statements).print root = .error cause ↔
        config.indent.process 1 = .error cause ∧ statements.any
          (if before + after = 0 then Php.statementWraps else Php.statementAsks) = true) ∧
      ∀ statements cause, (TypeScript.fileOutline statements).print root = .error cause ↔
        config.indent.process 1 = .error cause ∧ statements.any
          (if before + after = 0 then TypeScript.statementWraps else TypeScript.statementAsks)
            = true := by
  intro root
  refine ⟨fun statements => ?_, fun statements => ?_, fun statements cause => ?_,
    fun statements cause => ?_⟩
  · exact leavesTrace_of_swept (Php.swept_construct (.file statements)) config before after
  · exact leavesTrace_of_swept (TypeScript.swept_construct (.file statements)) config before after
  · rw [Php.fileOutline, Php.statementOutlines_eq_map]
    exact Php.writing.print_traced_eq_error_iff config before after statements cause
  · rw [TypeScript.fileOutline, TypeScript.statementOutlines_eq_map]
    exact TypeScript.writing.print_traced_eq_error_iff config before after statements cause

/-- A class without members has four slots, and under a lead that is too long there
    is no trace of them. -/
theorem empty_class_leaves_no_trace :
    (Arena.ofOutline (Php.fileOutline [.classDecl "A" []])).size = 4 ∧
      ¬ ∃ outcome journal,
        (Php.fileOutline [.classDecl "A" []]).print (.initial .widest [.indent, .trace])
          = .ok (outcome, journal) ∧
        (Php.fileOutline [.classDecl "A" []]).Traced journal.rendered := by
  refine ⟨rfl, ?_⟩
  rintro ⟨outcome, journal, hprint, -⟩
  have hcapacity : ((Php.fileOutline [.classDecl "A" []]).print
      (.initial .widest [.indent, .trace])).map Prod.fst = .error .capacity := by
    rw [Php.print_eq_settle, Draft.settle_of_error Config.process_widest]
    rfl
  rw [hprint] at hcapacity
  cases hcapacity

end ClassForge
