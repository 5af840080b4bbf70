import ClassForge.Php.Outline
import ClassForge.Proofs.Code.Grammar

/-!
# Written PHP

What a PHP file looks like when it is written down, by recursion on its
statements, and the proof that printing the file gives that text.

The two have little in common. Printing first lays out all printers of the file
in an arena and then walks through it by numbers, while the level of
indentation travels in the states of frames: a class forces it, a method asks
its body to be one level deep and the body passes that on. The written text has
none of this. It indents the body of a class and of a method by one level, and
since bodies are nested this indents the inner ones twice.

The lead of a level may be too long to be held, and then there is no text of a
class, of a method or of a literal on several lines, not even of a class with
nothing to indent. Nothing else fails, and nothing at all fails for another
reason.

## Main definitions

* `dialect`: The signs of the grammar.
* `statementText`, `fileText`: Statements and files, written down.
* `statementAsks`: Whether a statement needs the lead of one level.
* `wording`, `grammar`, `writing`: All of that, compared with the printers.

## Theorems

* `constructOutline_eq`: The outlines are those of the grammar.
* `print_php_eq_fileText`: Printing a file gives its written text.
* `print_php_empty_class_overflow`: There are leads for which a file is not printed.
-/

namespace ClassForge

namespace Php

open Code Print Outline

/-- The signs of the grammar. -/
def dialect : Dialect where
  variableSign := "$"
  accessSign := "->"
  opening := fun _ => "array("
  closing := fun _ => ")"
  keySign := " => "

/-- The modifiers of a member or a method, written down. -/
def modifiersText (modifiers : List Modifier) : String := wordsText (modifiers.map Modifier.word)

/-- The signature of a method, written down. -/
def signatureText (head : MethodHead) : String :=
  modifiersText head.modifiers ++ "function " ++ head.name ++ "("
    ++ ", ".intercalate (head.arguments.map fun argument => "$" ++ argument.name) ++ ")"

/-- A target, written down. -/
def targetText : Target → String
  | .variable name => "$" ++ name
  | .access path => path.text "->"

section Texts

variable (lead : String)

mutual

/-- A statement, written down. -/
def statementText : Statement → String
  | .openTag => "<?php"
  | .namespaceDecl name => "namespace " ++ name ++ ";"
  | .useDecl name => "use " ++ name ++ ";"
  | .comment text => "// " ++ text
  | .doc comment => docText comment
  | .classDecl name members =>
    "class " ++ name ++ " \x7b\n"
      ++ Text.indented lead ("\n".intercalate (statementTexts members)) ++ "\n\x7d"
  | .member modifiers name _ => modifiersText modifiers ++ "$" ++ name ++ ";"
  | .method head body =>
    signatureText head ++ blockText lead ("\n".intercalate (statementTexts body))
  | .assign target value => targetText target ++ " = " ++ expressionText dialect lead value ++ ";"
  | .returns value => "return " ++ expressionText dialect lead value ++ ";"
  | .expression value => expressionText dialect lead value ++ ";"
  | .blankLine => ""

/-- Several statements, written down. -/
def statementTexts : List Statement → List String
  | [] => []
  | statement :: statements => statementText statement :: statementTexts statements

end

/-- A file, written down. -/
def fileText (statements : List Statement) : String :=
  "\n".intercalate (statementTexts lead statements)

end Texts

/-- Whether a statement needs the lead of one level. A class and a method do,
    even if they have nothing to indent. -/
def statementAsks : Statement → Bool
  | .classDecl .. | .method .. => true
  | .assign _ value | .returns value | .expression value => expressionWraps dialect value
  | _ => false

mutual

/-- Whether some literal of a statement takes several lines. -/
def statementWraps : Statement → Bool
  | .classDecl _ members => statementsWrap members
  | .method _ body => statementsWrap body
  | .assign _ value | .returns value | .expression value => expressionWraps dialect value
  | .openTag | .namespaceDecl _ | .useDecl _ | .comment _ | .doc _ | .member .. | .blankLine =>
    false

/-- Whether some literal of several statements takes several lines. -/
def statementsWrap : List Statement → Bool
  | [] => false
  | statement :: statements => statementWraps statement || statementsWrap statements

end

section Printers

theorem combines_comparison : Printers.comparison.Combines 3 " ".intercalate := by
  intro scope view hcount
  change (scope.expect 3).bind (fun _ => scope.texts.bind fun parts => .done _) = _
  rw [Scope.expect_eq hcount]
  rfl

theorem combines_element (isDictionary : Bool) (key : Option String) :
    (Printers.element (if isDictionary then key else none)).Combines 1
      (Parts.one fun value => keyText dialect isDictionary key ++ value) := by
  unfold keyText
  cases (if isDictionary then key else none) with
  | some key =>
      have hquote : "\" => " = "\"" ++ dialect.keySign := rfl
      have hkey : ∀ value, "\"" ++ key ++ "\"" ++ dialect.keySign ++ value
          = "\"" ++ key ++ "\" => " ++ value := by
        intro value
        rw [hquote]
        simp only [String.append_assoc]
      refine Printer.combines_one fun scope view => ?_
      simp only [hkey]
      rfl
  | none =>
      refine Printer.combines_one fun scope view => ?_
      simp only [String.empty_append]
      rfl

/-- A lead in front of all elements and in every separator is a lead in front of
    each element. -/
theorem lead_append_intercalate (lead : String) {elements : List String}
    (helements : elements ≠ []) :
    lead ++ (",\n" ++ lead).intercalate elements
      = ",\n".intercalate (elements.map (lead ++ ·)) := by
  induction elements with
  | nil => exact absurd rfl helements
  | cons element elements ih =>
      cases elements with
      | nil => rw [List.map_cons, List.map_nil, String.intercalate_singleton,
          String.intercalate_singleton]
      | cons next elements =>
          rw [String.intercalate_cons_cons, List.map_cons, List.map_cons,
            String.intercalate_cons_cons, ← List.map_cons, ← ih (List.cons_ne_nil _ _)]
          simp only [String.append_assoc]

theorem arrayWidth_eq (elements : List String) : arrayWidth elements = Literal.width elements := by
  induction elements with
  | nil => rfl
  | cons element elements ih => rw [arrayWidth, Literal.width, ih]

/-- An array takes several lines when a literal does. -/
theorem arrayWrapWidth_lt_iff (elements : List String) :
    arrayWrapWidth < arrayWidth elements ↔ Literal.Wraps elements := by
  rw [arrayWidth_eq]
  rfl

/-- How the elements of a literal are laid out. -/
theorem arrayText_eq (isDictionary : Bool) (indent : Indent) (elements : List String) :
    arrayText indent elements = dialect.literal isDictionary (indent.process 1) elements := by
  by_cases hwraps : Literal.Wraps elements
  · have hne : elements ≠ [] := by
      intro hnil
      rw [hnil] at hwraps
      exact absurd hwraps (Nat.not_lt_zero _)
    have hlong := (arrayWrapWidth_lt_iff elements).mpr hwraps
    rw [Dialect.literal, if_pos hwraps, arrayText, if_pos hlong]
    cases indent.process 1 with
    | error cause => rfl
    | ok lead =>
        -- The first lead stands in front of all elements, the others in the separators.
        have hopening : "array(\n" = dialect.opening isDictionary ++ "\n" := rfl
        have hclosing : "\n)" = "\n" ++ dialect.closing isDictionary := rfl
        change Except.ok ("array(\n" ++ lead ++ (",\n" ++ lead).intercalate elements ++ "\n)")
          = Except.ok (dialect.opening isDictionary ++ Literal.inside lead elements
            ++ dialect.closing isDictionary)
        rw [Literal.inside, if_pos hwraps, ← lead_append_intercalate lead hne, hopening, hclosing]
        simp only [String.append_assoc]
  · have hshort := mt (arrayWrapWidth_lt_iff elements).mp hwraps
    rw [Dialect.literal, if_neg hwraps, arrayText, if_neg hshort]
    rfl

end Printers

/-- The printers of expressions. -/
def wording : Wording dialect Own where
  kind_ne := fun h => by cases h <;> exact fun hkind => by cases hkind
  invocation := ⟨Printers.invocation, .own .invocation, Printer.combines_two fun _ _ => rfl⟩
  comparison := ⟨Printers.comparison, .own .comparison, combines_comparison⟩
  conditional := ⟨Printers.conditional, .own .conditional, Printer.combines_three fun _ _ => rfl⟩
  element := fun isDictionary key =>
    ⟨Printers.element (if isDictionary then key else none), .own (.element _),
      combines_element isDictionary key⟩
  literal := fun _ => Printers.array
  literal_own := fun _ => .array
  lay := fun _ => arrayText
  literal_layout := fun _ _ _ => rfl
  lay_eq := arrayText_eq

theorem callableOutline_eq (callable : Callable) :
    callableOutline callable = Code.callableOutline callable := by
  cases callable <;> rfl

theorem targetOutline_eq (target : Target) :
    targetOutline target = dialect.targetOutline target := by
  cases target <;> rfl

mutual

theorem expressionOutline_eq : (expression : Expression) →
    expressionOutline expression = wording.expressionOutline expression
  | .raw .. | .access _ | .variable _ => by
    rw [expressionOutline, Wording.expressionOutline]
    rfl
  | .invoke callable _ parameters => by
    rw [expressionOutline, Wording.expressionOutline, callableOutline_eq,
      expressionOutlines_eq parameters]
    rfl
  | .compare _ left right => by
    rw [expressionOutline, Wording.expressionOutline, expressionOutline_eq left,
      expressionOutline_eq right]
    rfl
  | .conditional condition whenTrue whenFalse => by
    rw [expressionOutline, Wording.expressionOutline, expressionOutline_eq condition,
      expressionOutline_eq whenTrue, expressionOutline_eq whenFalse]
    rfl
  | .array isDictionary elements => by
    rw [expressionOutline, Wording.expressionOutline, elementOutlines_eq isDictionary elements]
    rfl

theorem expressionOutlines_eq : (expressions : List Expression) →
    expressionOutlines expressions = wording.expressionOutlines expressions
  | [] => by
    rw [expressionOutlines, Wording.expressionOutlines]
  | expression :: expressions => by
    rw [expressionOutlines, Wording.expressionOutlines, expressionOutline_eq expression,
      expressionOutlines_eq expressions]

theorem elementOutline_eq (isDictionary : Bool) : (element : Element) →
    elementOutline isDictionary element = wording.elementOutline isDictionary element
  | .entry _ value => by
    rw [elementOutline, Wording.elementOutline, expressionOutline_eq value]
    rfl

theorem elementOutlines_eq (isDictionary : Bool) : (elements : List Element) →
    elementOutlines isDictionary elements = wording.elementOutlines isDictionary elements
  | [] => by
    rw [elementOutlines, Wording.elementOutlines]
  | element :: elements => by
    rw [elementOutlines, Wording.elementOutlines, elementOutline_eq isDictionary element,
      elementOutlines_eq isDictionary elements]

end

/-- No modifier is an empty word. -/
theorem word_ne (modifiers : List Modifier) : ∀ word ∈ modifiers.map Modifier.word, word ≠ "" := by
  intro word hword
  rcases List.mem_map.mp hword with ⟨modifier, -, rfl⟩
  cases modifier <;> decide

/-- How a statement is printed. -/
def line : Statement → Line Own Statement
  | .openTag => .fixed .openTag "<?php"
  | .namespaceDecl name => .fixed .namespaceDecl ("namespace " ++ name ++ ";")
  | .useDecl name => .fixed .useDecl ("use " ++ name ++ ";")
  | .comment text => .fixed .comment ("// " ++ text)
  | .doc comment => .fixed .docComment (docText comment)
  | .classDecl name members =>
    .framed ("class " ++ name) ⟨Printers.classDecl name, .classDecl name, fun _ _ => rfl⟩ members
  | .member modifiers name _ =>
    .worded ("$" ++ name ++ ";")
      ⟨Printers.member name, .own (.member name), Printer.combines_one fun _ _ => rfl⟩
      (modifiers.map Modifier.word) (word_ne modifiers)
  | .method head body =>
    .signed (fun arguments => "function " ++ head.name ++ "(" ++ arguments ++ ")")
      ⟨Printers.method head.name, .method head.name, fun _ _ => rfl⟩
      (head.modifiers.map Modifier.word) (word_ne head.modifiers)
      (head.arguments.map fun argument => "$" ++ argument.name) body
  | .assign target value =>
    .assigned ⟨Printers.assignment, .own .assignment, Printer.combines_two fun _ _ => rfl⟩
      target value
  | .returns value =>
    .valued "return " ⟨Printers.affix .returns "return " ";", .own .returns,
      Printer.combines_one fun _ _ => rfl⟩ value
  | .expression value =>
    .valued "" ⟨Printers.affix .expressionStatement "" ";", .own .expression,
      Printer.combines_one fun _ _ => rfl⟩ value
  | .blankLine => .fixed .blankLine ""

section Lists

variable (statements : List Statement)

theorem statementOutlines_eq_map : statementOutlines statements = statements.map statementOutline :=
  eq_map_of_cons (by rw [statementOutlines]) (fun _ _ => by rw [statementOutlines]) statements

theorem statementTexts_eq_map (lead : String) :
    statementTexts lead statements = statements.map (statementText lead) :=
  eq_map_of_cons (by rw [statementTexts]) (fun _ _ => by rw [statementTexts]) statements

theorem statementsWrap_eq_any : statementsWrap statements = statements.any statementWraps := by
  induction statements with
  | nil => rw [statementsWrap, List.any_nil]
  | cons statement statements ih => rw [statementsWrap, ih, List.any_cons]

end Lists

/-- The statements of the grammar, with the ways to print them. -/
def grammar : Grammar Statement where
  dialect := dialect
  own := Own
  wording := wording
  argument := fun argument => "$" ++ argument.name
  line := line
  outline := statementOutline
  outline_eq := by
    intro statement
    cases statement with
    | openTag | namespaceDecl | useDecl | comment | doc | blankLine =>
        rw [statementOutline]
        rfl
    | classDecl =>
        rw [statementOutline, statementOutlines_eq_map]
        rfl
    | member =>
        rw [statementOutline, modifiersOutline, line, Line.outline, wordsOutline, List.map_map]
        rfl
    | method head body =>
        rw [statementOutline, modifiersOutline, statementOutlines_eq_map, line, Line.outline,
          wordsOutline, argumentsOutline, List.map_map, List.map_map]
        rfl
    | assign =>
        rw [statementOutline, targetOutline_eq, expressionOutline_eq]
        rfl
    | returns | expression =>
        rw [statementOutline, expressionOutline_eq]
        rfl
  inside_wf := by
    refine Subrelation.wf (fun {below statement} hmem => ?_) (measure sizeOf).wf
    change sizeOf below < sizeOf statement
    cases statement with
    | classDecl name members =>
        have hlt := List.sizeOf_lt_of_mem (show below ∈ members from hmem)
        rw [Statement.classDecl.sizeOf_spec]
        omega
    | method head body =>
        have hlt := List.sizeOf_lt_of_mem (show below ∈ body from hmem)
        rw [Statement.method.sizeOf_spec]
        omega
    | _ => exact absurd hmem List.not_mem_nil

theorem targetText_eq (target : Target) : targetText target = dialect.targetText target := by
  cases target <;> rfl

/-- The same, written down. -/
def writing : Writing grammar where
  text := statementText
  text_eq := by
    intro lead statement
    cases statement with
    | openTag | namespaceDecl | useDecl | comment | doc | blankLine | returns =>
        rw [statementText]
        rfl
    | classDecl =>
        rw [statementText, statementTexts_eq_map]
        rfl
    | member =>
        rw [statementText]
        simp only [grammar, line, Line.text, modifiersText, String.append_assoc]
    | method =>
        rw [statementText, statementTexts_eq_map, signatureText]
        simp only [grammar, line, Line.text, modifiersText, String.append_assoc]
    | assign =>
        rw [statementText, targetText_eq]
        rfl
    | expression =>
        change _ = "" ++ expressionText dialect lead _ ++ ";"
        rw [statementText, String.empty_append]
  asks := statementAsks
  asks_eq := fun statement => by cases statement <;> rfl
  wraps := statementWraps
  wraps_eq := by
    intro statement
    cases statement with
    | classDecl | method =>
        rw [statementWraps, statementsWrap_eq_any]
        rfl
    | _ =>
        rw [statementWraps]
        rfl

theorem value_file (statements : List Statement) (lead : String) :
    (writing.file statements).value lead = fileText lead statements := by
  rw [fileText, statementTexts_eq_map, writing.value_file]
  rfl

/-- The outline of a construct is that of the grammar. -/
theorem constructOutline_eq (construct : Construct Statement) :
    constructOutline construct = grammar.construct construct := by
  cases construct with
  | file statements => exact congrArg Outline.file (statementOutlines_eq_map statements)
  | statement | argument => rfl
  | body statements => exact congrArg Outline.body (statementOutlines_eq_map statements)
  | target given => exact targetOutline_eq given
  | callable given => exact callableOutline_eq given
  | expression given => exact expressionOutline_eq given

theorem every_construct (construct : Construct Statement) :
    (constructOutline construct).Every (Uses Own) := by
  rw [constructOutline_eq]
  exact grammar.every_construct construct

section Files

variable (config : Config)

theorem print_eq_settle (statements : List Statement) :
    ((fileOutline statements).print (.initial config [.indent, .trace])).map Prod.fst
      = ((writing.file statements).settle config).map Except.ok := by
  rw [fileOutline, statementOutlines_eq_map]
  exact writing.print_file config statements

/-- Printing a file gives its written text. If the lead of one level is too long
    to be held, the file still has its text as long as none of its statements
    needs the lead; otherwise that is the only way in which printing fails. -/
theorem print_php_eq_fileText (statements : List Statement) :
    ((fileOutline statements).print (.initial config [.indent, .trace])).map Prod.fst
      = match config.indent.process 1 with
        | .ok lead => .ok (.ok (fileText lead statements))
        | .error cause =>
          if statements.any statementAsks then .error cause
          else .ok (.ok (fileText "" statements)) := by
  have hprint := writing.print_file_eq config statements
  simp only [value_file] at hprint
  rw [fileOutline, statementOutlines_eq_map]
  exact hprint

/-- A class without members has nothing to indent and the same text under every
    lead, and still it is not printed if the lead is too long. -/
theorem print_php_empty_class_overflow :
    (∀ lead, fileText lead [.classDecl "A" []] = "class A \x7b\n\n\x7d") ∧
      ((fileOutline [.classDecl "A" []]).print (.initial .widest [.indent, .trace])).map Prod.fst
        = .error .capacity := by
  constructor
  · intro lead
    simp only [fileText, statementTexts, statementText, String.intercalate_singleton,
      String.intercalate_nil, Text.indented, if_true]
    decide
  · rw [print_eq_settle, Draft.settle_of_error Config.process_widest]
    rfl

end Files

end Php

end ClassForge
