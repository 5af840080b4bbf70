import ClassForge.Proofs.Code.Grammar
import ClassForge.TypeScript.Outline

/-!
# Written TypeScript

What a TypeScript file looks like when it is written down, by recursion on its
statements, and the proof that printing the file gives that text.

The printers of this grammar are wired differently from what they write. One
printer serves assignments, returns and expressions by themselves, and tells
them apart by the kind of the node and the number of its parts; a comparison has
no printer of its own; a literal has one of two printers. Written down, each
construct just has its text, and it is the wiring that the proof is about.

As for the lead of a level: it is only needed by classes, methods and literals
on several lines. If it is too long to be held, these cannot be printed and
everything else can.

## Main definitions

* `dialect`: The signs of the grammar.
* `statementText`, `fileText`: Statements and files, written down.
* `statementAsks`: Whether a statement needs the lead of one level.
* `wording`, `grammar`, `writing`: All of that, compared with the printers.

## Theorems

* `constructOutline_eq`: The outlines are those of the grammar.
* `print_typeScript_eq_fileText`: Printing a file gives its written text.
* `print_typeScript_empty_class_overflow`: There are leads for which a file is
  not printed.
-/

namespace ClassForge

namespace TypeScript

open Code Print Outline

/-- The signs of the grammar. -/
def dialect : Dialect where
  variableSign := ""
  accessSign := "."
  opening := fun isDictionary => if isDictionary then "\x7b" else "["
  closing := fun isDictionary => if isDictionary then "\x7d" else "]"
  keySign := ": "

/-- The modifiers of a member or a method, written down. -/
def modifiersText (modifiers : List Modifier) : String := wordsText (modifiers.map Modifier.word)

/-- An argument, written down. -/
def argumentText (argument : Argument) : String := argument.name ++ ": " ++ argument.type.text

/-- The type of a result, written down if there is one. -/
def returnText : Option TypeName → String
  | none => ""
  | some type => ": " ++ type.text

/-- Everything about a method but its body, written down. -/
def headText (head : MethodHead) : String :=
  modifiersText head.modifiers ++ head.name ++ "("
    ++ ", ".intercalate (head.arguments.map argumentText) ++ ")" ++ returnText head.returns

/-- A target, written down. -/
def targetText : Target → String
  | .variable name => name
  | .access path => path.text "."

section Texts

variable (lead : String)

mutual

/-- A statement, written down. -/
def statementText : Statement → String
  | .comment text => "// " ++ text
  | .blockComment text => "/* " ++ text ++ " */"
  | .doc comment => docText comment
  | .classDecl exported name members =>
    (if exported then "export " else "") ++ "class " ++ name ++ " \x7b\n"
      ++ Text.indented lead ("\n".intercalate (statementTexts members)) ++ "\n\x7d"
  | .member modifiers name type => modifiersText modifiers ++ name ++ ": " ++ type.text ++ ";"
  | .method head body =>
    headText head ++ blockText lead ("\n".intercalate (statementTexts body))
  | .assign target value => targetText target ++ " = " ++ expressionText dialect lead value ++ ";"
  | .returns value => "return " ++ expressionText dialect lead value ++ ";"
  | .expression value => expressionText dialect lead value ++ ";"
  | .blankLine => ""

/-- Several statements, written down. -/
def statementTexts : List Statement → List String
  | [] => []
  | statement :: statements => statementText statement :: statementTexts statements

end

/-- A file, written down. -/
def fileText (statements : List Statement) : String :=
  "\n".intercalate (statementTexts lead statements)

end Texts

/-- Whether a statement needs the lead of one level. -/
def statementAsks : Statement → Bool
  | .classDecl .. | .method .. => true
  | .assign _ value | .returns value | .expression value => expressionWraps dialect value
  | _ => false

mutual

/-- Whether some literal of a statement takes several lines. -/
def statementWraps : Statement → Bool
  | .classDecl _ _ members => statementsWrap members
  | .method _ body => statementsWrap body
  | .assign _ value | .returns value | .expression value => expressionWraps dialect value
  | .comment _ | .blockComment _ | .doc _ | .member .. | .blankLine => false

/-- Whether some literal of several statements takes several lines. -/
def statementsWrap : List Statement → Bool
  | [] => false
  | statement :: statements => statementWraps statement || statementsWrap statements

end

theorem signatureText_eq (name arguments : String) (returns : Option TypeName) :
    signatureText name arguments returns
      = name ++ "(" ++ arguments ++ ")" ++ returnText returns := by
  cases returns <;> rfl

section Printers

/-- The printer that all statements with a semicolon share. -/
theorem combines_statement (kind : NodeKind) (arity : Nat) :
    (Printers.statement kind arity).Combines arity fun parts =>
      (if kind = .returns then "return " ++ String.join parts else " = ".intercalate parts)
        ++ ";" := by
  intro scope view hcount
  -- The number of parts is right, and all of them are asked for at once.
  change (scope.expect arity).bind (fun _ => scope.texts.bind fun parts => .done _) = _
  rw [Scope.expect_eq hcount]
  rfl

theorem combines_assignment :
    (Printers.statement .assignment 2).Combines 2
      (Parts.two fun target value => target ++ " = " ++ value ++ ";") := by
  have h := (combines_statement .assignment 2).two
  simpa [String.intercalate_cons_cons, String.intercalate_singleton] using h

theorem combines_returns :
    (Printers.statement .returns 1).Combines 1
      (Parts.one fun value => "return " ++ value ++ ";") := by
  have h := (combines_statement .returns 1).one
  simpa [String.join_cons, String.join_nil] using h

theorem combines_expression :
    (Printers.statement .expressionStatement 1).Combines 1
      (Parts.one fun value => "" ++ value ++ ";") := by
  have h := (combines_statement .expressionStatement 1).one
  simpa [String.intercalate_singleton] using h

theorem combines_element (isDictionary : Bool) (key : Option String) :
    (Printers.element (if isDictionary then key else none)).Combines 1
      (Parts.one fun value => keyText dialect isDictionary key ++ value) := by
  unfold keyText
  cases (if isDictionary then key else none) with
  | some key =>
      have hquote : "\": " = "\"" ++ dialect.keySign := rfl
      have hkey : ∀ value, "\"" ++ key ++ "\"" ++ dialect.keySign ++ value
          = "\"" ++ key ++ "\": " ++ value := by
        intro value
        rw [hquote]
        simp only [String.append_assoc]
      refine Printer.combines_one fun scope view => ?_
      simp only [hkey]
      rfl
  | none =>
      refine Printer.combines_one fun scope view => ?_
      simp only [String.empty_append]
      rfl

/-- The two printers of literals are one, given the signs of the grammar. -/
theorem literalPrinter_eq (isDictionary : Bool) :
    (if isDictionary then Printers.literal "\x7b" "\x7d" else Printers.literal "[" "]")
      = Printers.literal (dialect.opening isDictionary) (dialect.closing isDictionary) := by
  cases isDictionary <;> rfl

theorem literalWidth_eq (elements : List String) :
    literalWidth elements = Literal.width elements := by
  induction elements with
  | nil => rfl
  | cons element elements ih => rw [literalWidth, Literal.width, ih]

/-- A literal takes one line as long as no literal takes several. -/
theorem literalWidth_le_iff (elements : List String) :
    literalWidth elements ≤ literalWrapWidth ↔ ¬ Literal.Wraps elements := by
  rw [literalWidth_eq]
  exact Nat.not_lt.symm

/-- How the elements of a literal are laid out. -/
theorem literalText_eq (isDictionary : Bool) (indent : Indent) (elements : List String) :
    literalText (dialect.opening isDictionary) (dialect.closing isDictionary) indent elements
      = dialect.literal isDictionary (indent.process 1) elements := by
  by_cases hwraps : Literal.Wraps elements
  · have hlong := mt (literalWidth_le_iff elements).mp (not_not.mpr hwraps)
    rw [Dialect.literal, if_pos hwraps, literalText, if_neg hlong]
    cases indent.process 1 with
    | error cause => rfl
    | ok lead =>
        change Except.ok (dialect.opening isDictionary ++ "\n"
          ++ ",\n".intercalate (elements.map (lead ++ ·)) ++ "\n" ++ dialect.closing isDictionary)
          = Except.ok (dialect.opening isDictionary ++ Literal.inside lead elements
            ++ dialect.closing isDictionary)
        rw [Literal.inside, if_pos hwraps]
        simp only [String.append_assoc]
  · have hshort := (literalWidth_le_iff elements).mpr hwraps
    rw [Dialect.literal, if_neg hwraps, literalText, if_pos hshort]

end Printers

/-- The printers of expressions. -/
def wording : Wording dialect Own where
  kind_ne := fun h => by cases h <;> exact fun hkind => by cases hkind
  invocation := ⟨Printers.invocation, .own .invocation, Printer.combines_two fun _ _ => rfl⟩
  comparison := ⟨.separated " ", .join _, Printer.combines_join _ 3⟩
  conditional := ⟨Printers.conditional, .own .conditional, Printer.combines_three fun _ _ => rfl⟩
  element := fun isDictionary key =>
    ⟨Printers.element (if isDictionary then key else none), .own (.element _),
      combines_element isDictionary key⟩
  literal := fun isDictionary =>
    Printers.literal (dialect.opening isDictionary) (dialect.closing isDictionary)
  literal_own := fun isDictionary => by
    cases isDictionary
    · exact .array
    · exact .object
  lay := fun isDictionary =>
    literalText (dialect.opening isDictionary) (dialect.closing isDictionary)
  literal_layout := fun _ _ _ => rfl
  lay_eq := literalText_eq

theorem callableOutline_eq (callable : Callable) :
    callableOutline callable = Code.callableOutline callable := by
  cases callable <;> rfl

/-- The sign in front of a variable is empty. -/
theorem targetOutline_eq (target : Target) :
    targetOutline target = dialect.targetOutline target := by
  cases target with
  | access path => rfl
  | _ name =>
      rw [targetOutline, Dialect.targetOutline, dialect, String.empty_append]
      rfl

mutual

theorem expressionOutline_eq : (expression : Expression) →
    expressionOutline expression = wording.expressionOutline expression
  | .raw .. | .access _ => by
    rw [expressionOutline, Wording.expressionOutline]
    rfl
  | .variable name => by
    rw [expressionOutline, Wording.expressionOutline, dialect, String.empty_append]
    rfl
  | .invoke callable _ parameters => by
    rw [expressionOutline, Wording.expressionOutline, callableOutline_eq,
      expressionOutlines_eq parameters]
    rfl
  | .compare _ left right => by
    rw [expressionOutline, Wording.expressionOutline, expressionOutline_eq left,
      expressionOutline_eq right]
    rfl
  | .conditional condition whenTrue whenFalse => by
    rw [expressionOutline, Wording.expressionOutline, expressionOutline_eq condition,
      expressionOutline_eq whenTrue, expressionOutline_eq whenFalse]
    rfl
  | .array isDictionary elements => by
    -- Which of the two printers it is only decides about the brackets.
    rw [expressionOutline, Wording.expressionOutline, elementOutlines_eq isDictionary elements,
      literalPrinter_eq]
    rfl

theorem expressionOutlines_eq : (expressions : List Expression) →
    expressionOutlines expressions = wording.expressionOutlines expressions
  | [] => by
    rw [expressionOutlines, Wording.expressionOutlines]
  | expression :: expressions => by
    rw [expressionOutlines, Wording.expressionOutlines, expressionOutline_eq expression,
      expressionOutlines_eq expressions]

theorem elementOutline_eq (isDictionary : Bool) : (element : Element) →
    elementOutline isDictionary element = wording.elementOutline isDictionary element
  | .entry _ value => by
    rw [elementOutline, Wording.elementOutline, expressionOutline_eq value]
    rfl

theorem elementOutlines_eq (isDictionary : Bool) : (elements : List Element) →
    elementOutlines isDictionary elements = wording.elementOutlines isDictionary elements
  | [] => by
    rw [elementOutlines, Wording.elementOutlines]
  | element :: elements => by
    rw [elementOutlines, Wording.elementOutlines, elementOutline_eq isDictionary element,
      elementOutlines_eq isDictionary elements]

end

/-- No modifier is an empty word. -/
theorem word_ne (modifiers : List Modifier) : ∀ word ∈ modifiers.map Modifier.word, word ≠ "" := by
  intro word hword
  rcases List.mem_map.mp hword with ⟨modifier, -, rfl⟩
  cases modifier <;> decide

/-- How a statement is printed. -/
def line : Statement → Line Own Statement
  | .comment text => .fixed .comment ("// " ++ text)
  | .blockComment text => .fixed .blockComment ("/* " ++ text ++ " */")
  | .doc comment => .fixed .docComment (docText comment)
  | .classDecl exported name members =>
    .framed ((if exported then "export " else "") ++ "class " ++ name)
      ⟨Printers.classDecl exported name, .classDecl exported name, fun _ _ => rfl⟩ members
  | .member modifiers name type =>
    .worded (name ++ ": " ++ type.text ++ ";")
      ⟨Printers.member name type, .own (.member name type), Printer.combines_one fun _ _ => rfl⟩
      (modifiers.map Modifier.word) (word_ne modifiers)
  | .method head body =>
    .signed (fun arguments => TypeScript.signatureText head.name arguments head.returns)
      ⟨Printers.method head.name head.returns, .method head.name head.returns, fun _ _ => rfl⟩
      (head.modifiers.map Modifier.word) (word_ne head.modifiers)
      (head.arguments.map argumentText) body
  | .assign target value =>
    .assigned ⟨Printers.statement .assignment 2, .own .assignment, combines_assignment⟩
      target value
  | .returns value =>
    .valued "return " ⟨Printers.statement .returns 1, .own .returns, combines_returns⟩ value
  | .expression value =>
    .valued "" ⟨Printers.statement .expressionStatement 1, .own .expression,
      combines_expression⟩ value
  | .blankLine => .fixed .blankLine ""

section Lists

variable (statements : List Statement)

theorem statementOutlines_eq_map : statementOutlines statements = statements.map statementOutline :=
  eq_map_of_cons (by rw [statementOutlines]) (fun _ _ => by rw [statementOutlines]) statements

theorem statementTexts_eq_map (lead : String) :
    statementTexts lead statements = statements.map (statementText lead) :=
  eq_map_of_cons (by rw [statementTexts]) (fun _ _ => by rw [statementTexts]) statements

theorem statementsWrap_eq_any : statementsWrap statements = statements.any statementWraps := by
  induction statements with
  | nil => rw [statementsWrap, List.any_nil]
  | cons statement statements ih => rw [statementsWrap, ih, List.any_cons]

end Lists

/-- The statements of the grammar, with the ways to print them. -/
def grammar : Grammar Statement where
  dialect := dialect
  own := Own
  wording := wording
  argument := argumentText
  line := line
  outline := statementOutline
  outline_eq := by
    intro statement
    cases statement with
    | comment | blockComment | doc | blankLine =>
        rw [statementOutline]
        rfl
    | classDecl =>
        rw [statementOutline, statementOutlines_eq_map]
        rfl
    | member =>
        rw [statementOutline, modifiersOutline, line, Line.outline, wordsOutline, List.map_map]
        rfl
    | method head body =>
        rw [statementOutline, modifiersOutline, statementOutlines_eq_map, line, Line.outline,
          wordsOutline, argumentsOutline, List.map_map, List.map_map]
        rfl
    | assign =>
        rw [statementOutline, targetOutline_eq, expressionOutline_eq]
        rfl
    | returns | expression =>
        rw [statementOutline, expressionOutline_eq]
        rfl
  inside_wf := by
    refine Subrelation.wf (fun {below statement} hmem => ?_) (measure sizeOf).wf
    change sizeOf below < sizeOf statement
    cases statement with
    | classDecl exported name members =>
        have hlt := List.sizeOf_lt_of_mem (show below ∈ members from hmem)
        rw [Statement.classDecl.sizeOf_spec]
        omega
    | method head body =>
        have hlt := List.sizeOf_lt_of_mem (show below ∈ body from hmem)
        rw [Statement.method.sizeOf_spec]
        omega
    | _ => exact absurd hmem List.not_mem_nil

theorem targetText_eq (target : Target) : targetText target = dialect.targetText target := by
  cases target <;> rfl

/-- The same, written down. -/
def writing : Writing grammar where
  text := statementText
  text_eq := by
    intro lead statement
    cases statement with
    | comment | blockComment | doc | blankLine | returns =>
        rw [statementText]
        rfl
    | classDecl =>
        rw [statementText, statementTexts_eq_map]
        rfl
    | member =>
        rw [statementText]
        simp only [grammar, line, Line.text, modifiersText, String.append_assoc]
    | method =>
        rw [statementText, statementTexts_eq_map, headText]
        simp only [grammar, line, Line.text, modifiersText, signatureText_eq, String.append_assoc]
    | assign =>
        rw [statementText, targetText_eq]
        rfl
    | expression =>
        change _ = "" ++ expressionText dialect lead _ ++ ";"
        rw [statementText, String.empty_append]
  asks := statementAsks
  asks_eq := fun statement => by cases statement <;> rfl
  wraps := statementWraps
  wraps_eq := by
    intro statement
    cases statement with
    | classDecl | method =>
        rw [statementWraps, statementsWrap_eq_any]
        rfl
    | _ =>
        rw [statementWraps]
        rfl

theorem value_file (statements : List Statement) (lead : String) :
    (writing.file statements).value lead = fileText lead statements := by
  rw [fileText, statementTexts_eq_map, writing.value_file]
  rfl

/-- The outline of a construct is that of the grammar. -/
theorem constructOutline_eq (construct : Construct Statement) :
    constructOutline construct = grammar.construct construct := by
  cases construct with
  | file statements => exact congrArg Outline.file (statementOutlines_eq_map statements)
  | statement | argument => rfl
  | body statements => exact congrArg Outline.body (statementOutlines_eq_map statements)
  | target given => exact targetOutline_eq given
  | callable given => exact callableOutline_eq given
  | expression given => exact expressionOutline_eq given

theorem every_construct (construct : Construct Statement) :
    (constructOutline construct).Every (Uses Own) := by
  rw [constructOutline_eq]
  exact grammar.every_construct construct

section Files

variable (config : Config)

theorem print_eq_settle (statements : List Statement) :
    ((fileOutline statements).print (.initial config [.indent, .trace])).map Prod.fst
      = ((writing.file statements).settle config).map Except.ok := by
  rw [fileOutline, statementOutlines_eq_map]
  exact writing.print_file config statements

/-- Printing a file gives its written text. If the lead of one level is too long
    to be held, the file still has its text as long as none of its statements
    needs the lead; otherwise that is the only way in which printing fails. -/
theorem print_typeScript_eq_fileText (statements : List Statement) :
    ((fileOutline statements).print (.initial config [.indent, .trace])).map Prod.fst
      = match config.indent.process 1 with
        | .ok lead => .ok (.ok (fileText lead statements))
        | .error cause =>
          if statements.any statementAsks then .error cause
          else .ok (.ok (fileText "" statements)) := by
  have hprint := writing.print_file_eq config statements
  simp only [value_file] at hprint
  rw [fileOutline, statementOutlines_eq_map]
  exact hprint

/-- A class without members has nothing to indent and the same text under every
    lead, and still it is not printed if the lead is too long. -/
theorem print_typeScript_empty_class_overflow :
    (∀ lead, fileText lead [.classDecl false "A" []] = "class A \x7b\n\n\x7d") ∧
      ((fileOutline [.classDecl false "A" []]).print
          (.initial .widest [.indent, .trace])).map Prod.fst
        = .error .capacity := by
  constructor
  · intro lead
    simp only [fileText, statementTexts, statementText, String.intercalate_singleton,
      String.intercalate_nil, Text.indented, if_true]
    decide
  · rw [print_eq_settle, Draft.settle_of_error Config.process_widest]
    rfl

end Files

end TypeScript

end ClassForge
