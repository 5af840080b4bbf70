import ClassForge.Proofs.Code.Wording

/-!
# Grammars

The statements of the two grammars are different types. One has a tag that opens a
file and the other has comments in the middle of a line, a class may be exported or
not, and a method may say what it returns. But there are only six ways to print one. A
statement is a fixed text, or a block around other statements, or it puts something in
front of a text, with words, a target, or a value in it.

A `Line` is such a way, with the parts that go into it, and a `Grammar` says which line
a statement is. That is only one layer: the statements inside a block are still
statements. Everything that is defined by recursion on statements therefore only has
to be compared with its line one step deep, which takes no induction, and all
inductions are done here and in the modules that build on this one, once for both
grammars.

## Main definitions

* `Framer`, `Signer`: The two printers with a body one level deep.
* `Line`: How a statement is printed, and of what parts.
* `Line.outline`, `Line.text`, `Line.asks`, `Line.wraps`: What a line comes to, given the
  same for the statements inside.
* `Grammar`: A type of statements with their lines.
* `Grammar.construct`: The outline of anything that can be printed.
* `Writing`: The statements of a grammar, written down.

## Theorems

* `Grammar.induct`: Induction on the statements inside.
* `Grammar.every_construct`: The printers of a construct.
* `Writing.drafts_statement`: The outline of a statement draws what is written.
* `Writing.print_file`, `Writing.print_file_eq_error_iff`: Printing a file, with the usual
  watchers and with any.
-/

namespace ClassForge

open Print Outline

namespace Code

/-- A printer of a grammar that puts a block around statements. -/
structure Framer (own : Printer → Prop) (front : String) where
  /-- The printer. -/
  printer : Printer
  /-- It belongs to the grammar. -/
  printer_own : own printer
  /-- It has one child, and sets its level to one. -/
  layout : ∀ (scope : Scope) (view : View), printer.layout scope view
    = (scope.expect 1).bind fun _ => (Layout.child 0 .keep (Settings.withSize 1)).bind fun body =>
      .done (front ++ " \x7b\n" ++ body ++ "\n\x7d")

/-- A printer of a grammar that writes a signature in front of statements. -/
structure Signer (own : Printer → Prop) (signature : String → String) where
  /-- The printer. -/
  printer : Printer
  /-- It belongs to the grammar. -/
  printer_own : own printer
  /-- It has three children, and asks for the last one to be one level deep. -/
  layout : ∀ (scope : Scope) (view : View), printer.layout scope view
    = (scope.expect 3).bind fun _ => (Layout.child 0).bind fun words =>
      (Layout.child 1).bind fun arguments => (Layout.child 2 (.indentTo 1)).bind fun body =>
        .done (withBody (setOff words (signature arguments)) body)

/-- How a statement is printed, and of what parts. -/
inductive Line (own : Printer → Prop) (Statement : Type) where
  /-- A fixed text. -/
  | fixed (kind : NodeKind) (content : String)
  /-- A block around statements. -/
  | framed (front : String) (framer : Framer own front) (members : List Statement)
  /-- Words in front of a text. -/
  | worded (rest : String) (combiner : Combiner own 1 (Parts.one fun words => setOff words rest))
      (words : List String) (hwords : ∀ word ∈ words, word ≠ "")
  /-- Words in front of a signature with arguments, and a block behind it. -/
  | signed (signature : String → String) (signer : Signer own signature) (words : List String)
      (hwords : ∀ word ∈ words, word ≠ "") (arguments : List String) (body : List Statement)
  /-- A target in front of a value. -/
  | assigned
      (combiner : Combiner own 2 (Parts.two fun target value => target ++ " = " ++ value ++ ";"))
      (target : Target) (value : Expression)
  /-- A text in front of a value. -/
  | valued (before : String)
      (combiner : Combiner own 1 (Parts.one fun value => before ++ value ++ ";"))
      (value : Expression)

/-- The outline of words in front of something. -/
def wordsOutline (words : List String) : Outline :=
  .separated " " (words.map fun word => .text NodeKind.modifier.name word)

/-- The outline of arguments. -/
def argumentsOutline (arguments : List String) : Outline :=
  .separated ", " (arguments.map fun argument => .text NodeKind.argument.name argument)

namespace Line

variable {own : Printer → Prop} {Statement : Type} {dialect : Dialect}

/-- The statements inside. -/
def statements : Line own Statement → List Statement
  | .framed _ _ members => members
  | .signed _ _ _ _ _ body => body
  | .fixed .. | .worded .. | .assigned .. | .valued .. => []

/-- The outline, given those of the statements inside. -/
def outline (wording : Wording dialect own) (outlineOf : Statement → Outline) :
    Line own Statement → Outline
  | .fixed kind content => .text kind.name content
  | .framed _ framer members => .node framer.printer [.sequence (members.map outlineOf)]
  | .worded _ combiner words _ => .node combiner.printer [wordsOutline words]
  | .signed _ signer words _ arguments body =>
    .node signer.printer
      [wordsOutline words, argumentsOutline arguments, .body (body.map outlineOf)]
  | .assigned combiner target value =>
    .node combiner.printer [dialect.targetOutline target, wording.expressionOutline value]
  | .valued _ combiner value => .node combiner.printer [wording.expressionOutline value]

/-- The text, given those of the statements inside. -/
def text (dialect : Dialect) (lead : String) (textOf : Statement → String) :
    Line own Statement → String
  | .fixed _ content => content
  | .framed front _ members =>
    front ++ " \x7b\n" ++ Text.indented lead ("\n".intercalate (members.map textOf)) ++ "\n\x7d"
  | .worded rest _ words _ => wordsText words ++ rest
  | .signed signature _ words _ arguments body =>
    wordsText words ++ signature (", ".intercalate arguments)
      ++ blockText lead ("\n".intercalate (body.map textOf))
  | .assigned _ target value =>
    dialect.targetText target ++ " = " ++ expressionText dialect lead value ++ ";"
  | .valued before _ value => before ++ expressionText dialect lead value ++ ";"

/-- Whether the text needs the lead of one level. A block does, even if there is nothing
    inside. -/
def asks (dialect : Dialect) : Line own Statement → Bool
  | .framed .. | .signed .. => true
  | .assigned _ _ value | .valued _ _ value => expressionWraps dialect value
  | .fixed .. | .worded .. => false

/-- Whether some literal takes several lines, given the same for the statements inside. -/
def wraps (dialect : Dialect) (wrapsOf : Statement → Bool) : Line own Statement → Bool
  | .framed _ _ members => members.any wrapsOf
  | .signed _ _ _ _ _ body => body.any wrapsOf
  | .assigned _ _ value | .valued _ _ value => expressionWraps dialect value
  | .fixed .. | .worded .. => false

/-- Statements inside a block, indented several times. -/
def block (indents : Nat) (drafts : List (Draft String)) : Draft String :=
  ((Draft.all drafts).map "\n".intercalate).ledAll indents

/-- The draft, given those of the statements inside. -/
def draft (dialect : Dialect) (indents : Nat) (draftOf : Statement → Draft String) :
    Line own Statement → Draft String
  | .fixed _ content => .fixed content
  | .framed front _ members =>
    (block indents (members.map draftOf)).map fun body => front ++ " \x7b\n" ++ body ++ "\n\x7d"
  | .worded rest _ words _ =>
    (Draft.all [.fixed (" ".intercalate words)]).map (Parts.one fun words => setOff words rest)
  | .signed signature _ words _ arguments body =>
    (Draft.all [.fixed (" ".intercalate words), .fixed (", ".intercalate arguments),
      block indents (body.map draftOf)]).map
      (Parts.three fun words arguments body => withBody (setOff words (signature arguments)) body)
  | .assigned _ target value =>
    (Draft.all [.fixed (dialect.targetText target), expressionDraft dialect value]).map
      (Parts.two fun target value => target ++ " = " ++ value ++ ";")
  | .valued before _ value =>
    (Draft.all [expressionDraft dialect value]).map
      (Parts.one fun value => before ++ value ++ ";")

theorem drafts_wordsOutline (watchers : Watchers) (config : Config) (words : List String) :
    Drafts watchers config (wordsOutline words) (.fixed (" ".intercalate words)) := by
  have hwords := drafts_words watchers config NodeKind.modifier.name " " (fun word => word) words
  rwa [List.map_id'] at hwords

theorem drafts_argumentsOutline (watchers : Watchers) (config : Config)
    (arguments : List String) :
    Drafts watchers config (argumentsOutline arguments) (.fixed (", ".intercalate arguments)) := by
  have hwords := drafts_words watchers config NodeKind.argument.name ", "
    (fun argument => argument) arguments
  rwa [List.map_id'] at hwords

/-- The outline of a line draws its draft, if that is so of the statements inside. -/
theorem drafts_outline {watchers : Watchers} {config : Config} (wording : Wording dialect own)
    {outlineOf : Statement → Outline} {draftOf : Statement → Draft String}
    (line : Line own Statement)
    (h : ∀ below ∈ line.statements, Drafts watchers config (outlineOf below) (draftOf below)) :
    Drafts watchers config (line.outline wording outlineOf)
      (line.draft dialect watchers.indents draftOf) := by
  have hinside : List.Forall₂ (Drafts watchers config) (line.statements.map outlineOf)
      (line.statements.map draftOf) := drafts_map h
  have hvalue := wording.drafts_expression watchers config
  cases line with
  | fixed kind content => exact drafts_text watchers config _ _
  | framed front framer members =>
      have hkind := wording.kind_ne framer.printer_own
      refine drafts_framed hkind (fun scope view hcount => ?_) hinside
      rw [framer.layout, Scope.expect_eq hcount]
      rfl
  | worded rest combiner words _ =>
      exact wording.drafts_combiner combiner rfl
        (.cons (drafts_wordsOutline watchers config words) .nil)
  | signed signature signer words _ arguments body =>
      refine drafts_signed (wording.kind_ne signer.printer_own) (fun scope view hcount => ?_)
        (drafts_wordsOutline watchers config words)
        (drafts_argumentsOutline watchers config arguments) hinside
      rw [signer.layout, Scope.expect_eq hcount]
      rfl
  | assigned combiner target value =>
      exact wording.drafts_combiner combiner rfl
        (.cons (drafts_target watchers config target) (.cons (hvalue value) .nil))
  | valued before combiner value =>
      exact wording.drafts_combiner combiner rfl (.cons (hvalue value) .nil)

theorem asks_block {indents : Nat} {draftOf : Statement → Draft String}
    {wrapsOf : Statement → Bool} {statements : List Statement}
    (h : indents = 0 → ∀ below ∈ statements, (draftOf below).asks = wrapsOf below) :
    (block indents (statements.map draftOf)).asks
      = if indents = 0 then statements.any wrapsOf else true := by
  rw [block, Draft.asks_ledAll, Draft.asks_map, Draft.asks_all_map]
  by_cases hindents : indents = 0
  · have hsame := congrArg (List.any · id) (List.map_congr_left (h hindents))
    rw [List.any_map, List.any_map] at hsame
    rw [if_pos hindents, hindents]
    exact hsame
  · rw [if_neg hindents, decide_eq_true (Nat.pos_of_ne_zero hindents), Bool.true_or]

/-- If somebody indents, the draft of a line asks for the lead as its text does, and
    otherwise it asks for it if a literal does. -/
theorem asks_draft {indents : Nat} {draftOf : Statement → Draft String}
    {wrapsOf : Statement → Bool} (line : Line own Statement)
    (h : indents = 0 → ∀ below ∈ line.statements, (draftOf below).asks = wrapsOf below) :
    (line.draft dialect indents draftOf).asks
      = if indents = 0 then line.wraps dialect wrapsOf else line.asks dialect := by
  cases line with
  | fixed | worded =>
      rw [wraps, asks, ite_self]
      rfl
  | framed front framer members => exact asks_block h
  | signed signature signer words _ arguments body =>
      -- Words and arguments are fixed, so it is up to the block behind them.
      exact (Bool.or_false _).trans (asks_block h)
  | assigned _ _ value | valued _ _ value =>
      rw [wraps, asks, ite_self]
      exact Bool.or_false _

/-- The draft of a line that is indented once is its text. -/
theorem value_draft {draftOf : Statement → Draft String} {textOf : Statement → String}
    {lead : String} (line : Line own Statement)
    (h : ∀ below ∈ line.statements, (draftOf below).value lead = textOf below) :
    (line.draft dialect 1 draftOf).value lead = line.text dialect lead textOf := by
  have hinside : (Draft.all (line.statements.map draftOf)).value lead
      = line.statements.map textOf := by
    rw [Draft.value_all_map]
    exact List.map_congr_left h
  have hblock : (block 1 (line.statements.map draftOf)).value lead
      = Text.indented lead ("\n".intercalate (line.statements.map textOf)) := by
    rw [← hinside]
    rfl
  cases line with
  | fixed | assigned | valued => rfl
  | framed front framer members => exact congrArg (front ++ " \x7b\n" ++ · ++ "\n\x7d") hblock
  | worded rest combiner words hwords => exact setOff_intercalate words hwords rest
  | signed signature signer words hwords arguments body =>
      change withBody (setOff (" ".intercalate words) (signature (", ".intercalate arguments)))
        ((block 1 (body.map draftOf)).value lead) = _
      rw [setOff_intercalate words hwords]
      exact (congrArg (withBody _) hblock).trans (withBody_indented lead _ _)

end Line

/-- What goes through a list by going through its head and its tail is a map. -/
theorem eq_map_of_cons {α β : Type} {all : List α → List β} {one : α → β} (hnil : all [] = [])
    (hcons : ∀ item items, all (item :: items) = one item :: all items) (items : List α) :
    all items = items.map one := by
  induction items with
  | nil => exact hnil
  | cons item items ih => rw [hcons, ih, List.map_cons]

/-- A type of statements with their lines. -/
structure Grammar (Statement : Type) where
  /-- The signs of the grammar. -/
  dialect : Dialect
  /-- The printers of the grammar. -/
  own : Printer → Prop
  /-- The printers of its expressions. -/
  wording : Wording dialect own
  /-- The text of an argument. -/
  argument : Argument → String
  /-- How a statement is printed. -/
  line : Statement → Line own Statement
  /-- The outline of a statement. -/
  outline : Statement → Outline
  /-- It is that of its line. -/
  outline_eq : ∀ statement, outline statement = (line statement).outline wording outline
  /-- Going from a statement to those inside ends. -/
  inside_wf : WellFounded fun below statement => below ∈ (line statement).statements

/-- Statements of a grammar, written down. -/
structure Writing {Statement : Type} (grammar : Grammar Statement) where
  /-- The text of a statement under a lead. -/
  text : String → Statement → String
  /-- It is that of its line. -/
  text_eq : ∀ lead statement,
    text lead statement = (grammar.line statement).text grammar.dialect lead (text lead)
  /-- Whether a statement needs the lead of one level. -/
  asks : Statement → Bool
  /-- That depends on its line alone. -/
  asks_eq : ∀ statement, asks statement = (grammar.line statement).asks grammar.dialect
  /-- Whether some literal of a statement takes several lines. -/
  wraps : Statement → Bool
  /-- That depends on its line. -/
  wraps_eq : ∀ statement,
    wraps statement = (grammar.line statement).wraps grammar.dialect wraps

namespace Grammar

variable {Statement : Type} (grammar : Grammar Statement)

/-- What passes from the statements inside of a statement to the statement itself holds
    of all statements. -/
theorem induct {holds : Statement → Prop}
    (h : ∀ statement, (∀ below ∈ (grammar.line statement).statements, holds below) →
      holds statement)
    (statement : Statement) : holds statement :=
  grammar.inside_wf.induction statement h

/-- The outlines of several statements. -/
def outlines (statements : List Statement) : List Outline := statements.map grammar.outline

/-- The outline of a construct. -/
def construct : Construct Statement → Outline
  | .file statements => .file (grammar.outlines statements)
  | .statement given => grammar.outline given
  | .body statements => .body (grammar.outlines statements)
  | .argument given => .text NodeKind.argument.name (grammar.argument given)
  | .target given => grammar.dialect.targetOutline given
  | .callable given => callableOutline given
  | .expression given => grammar.wording.expressionOutline given

section Printers

theorem every_wordsOutline {own : Printer → Prop} (words : List String) :
    (wordsOutline words).Every (Words own) :=
  every_words _ " " (fun word => word) words

theorem every_argumentsOutline {own : Printer → Prop} (arguments : List String) :
    (argumentsOutline arguments).Every (Words own) :=
  every_words _ ", " (fun argument => argument) arguments

/-- Nothing but the printers of the grammar and those that all grammars share is used
    for a statement. -/
theorem every_statement (statement : Statement) :
    (grammar.outline statement).Every (Uses grammar.own) := by
  induction statement using grammar.induct with
  | h statement ih =>
      have hinside : ∀ outline ∈ (grammar.line statement).statements.map grammar.outline,
          outline.Every (Uses grammar.own) := List.forall_mem_map.mpr ih
      rw [grammar.outline_eq]
      cases hline : grammar.line statement with
      | fixed kind content => exact (every_text _ _).used
      | framed front framer members =>
          rw [hline] at hinside
          exact every_one (.own framer.printer_own) (every_sequence hinside)
      | worded rest combiner words _ =>
          exact (every_one combiner.words (every_wordsOutline words)).used
      | signed signature signer words _ arguments body =>
          rw [hline] at hinside
          exact every_three (.own signer.printer_own) (every_wordsOutline words).used
            (every_argumentsOutline arguments).used (every_body hinside)
      | assigned combiner target value =>
          exact (every_two combiner.words (every_target target)
            (grammar.wording.words_expression value)).used
      | valued before combiner value =>
          exact (every_one combiner.words (grammar.wording.words_expression value)).used

/-- Nor for any other construct. -/
theorem every_construct (construct : Construct Statement) :
    (grammar.construct construct).Every (Uses grammar.own) := by
  have hstatements : ∀ statements, ∀ outline ∈ grammar.outlines statements,
      outline.Every (Uses grammar.own) := fun statements =>
    List.forall_mem_map.mpr fun statement _ => grammar.every_statement statement
  cases construct with
  | file statements => exact every_file (hstatements statements)
  | statement given => exact grammar.every_statement given
  | body statements => exact every_body (hstatements statements)
  | argument given => exact (every_text _ _).used
  | target given => exact (every_target given).used
  | callable given => exact (every_callable given).used
  | expression given => exact (grammar.wording.words_expression given).used

end Printers

end Grammar

namespace Writing

variable {Statement : Type} {grammar : Grammar Statement} (writing : Writing grammar)
  {watchers : Watchers} {config : Config}

/-- A draft of a statement, for watchers that may indent or not. If they do, every block
    asks for the lead, and otherwise only literals do. If they indent once, the draft is
    what is written. -/
structure Drafted (watchers : Watchers) (statement : Statement) (draft : Draft String) : Prop where
  drafts : ∀ config, Drafts watchers config (grammar.outline statement) draft
  asks_eq : draft.asks = if watchers.indents = 0 then writing.wraps statement
    else writing.asks statement
  value_eq : watchers.indents = 1 → ∀ lead, draft.value lead = writing.text lead statement

theorem exists_drafted (watchers : Watchers) (statement : Statement) :
    ∃ draft, writing.Drafted watchers statement draft := by
  induction statement using grammar.induct with
  | h statement ih =>
      -- The statements inside have drafts; one is chosen for each of them, and the line puts
      -- these together.
      have hnonempty : Nonempty (Draft String) := ⟨.fixed ""⟩
      choose! draftOf hdrafted using ih
      refine ⟨(grammar.line statement).draft grammar.dialect watchers.indents draftOf,
        fun config => ?_, ?_, fun hindents lead => ?_⟩
      · rw [grammar.outline_eq]
        exact Line.drafts_outline grammar.wording _ fun below hmem =>
          (hdrafted below hmem).drafts config
      · rw [writing.asks_eq, writing.wraps_eq]
        refine Line.asks_draft _ fun hindents below hmem => ?_
        rw [(hdrafted below hmem).asks_eq, if_pos hindents]
      · rw [writing.text_eq, hindents]
        exact Line.value_draft _ fun below hmem => (hdrafted below hmem).value_eq hindents lead

/-- The draft of a statement that is indented once. -/
theorem exists_draft (statement : Statement) : ∃ draft : Draft String,
    (∀ config, Drafts .usual config (grammar.outline statement) draft) ∧
      draft.asks = writing.asks statement ∧
      ∀ lead, draft.value lead = writing.text lead statement := by
  rcases writing.exists_drafted .usual statement with ⟨draft, hdrafted⟩
  exact ⟨draft, hdrafted.drafts, hdrafted.asks_eq, hdrafted.value_eq rfl⟩

/-- A statement, written down, as a draft. -/
def draft (statement : Statement) : Draft String where
  asks := writing.asks statement
  value := fun lead => writing.text lead statement
  steady := by
    intro hasks lead
    rcases writing.exists_draft statement with ⟨draft, -, hdraft, hvalue⟩
    rw [← hvalue, ← hvalue]
    exact draft.steady (hdraft.trans hasks) lead

/-- The outline of a statement draws what is written. -/
theorem drafts_statement (config : Config) (statement : Statement) :
    Drafts .usual config (grammar.outline statement) (writing.draft statement) := by
  rcases writing.exists_draft statement with ⟨draft, hdrafts, hasks, hvalue⟩
  have hdraft : draft = writing.draft statement := Draft.ext hasks (funext hvalue)
  rw [← hdraft]
  exact hdrafts config

/-- A file, written down, as a draft. -/
def file (statements : List Statement) : Draft String :=
  (Draft.all (statements.map writing.draft)).map "\n".intercalate

theorem asks_file (statements : List Statement) :
    (writing.file statements).asks = statements.any writing.asks := by
  rw [file, Draft.asks_map, Draft.asks_all_map]
  rfl

theorem value_file (statements : List Statement) (lead : String) :
    (writing.file statements).value lead
      = "\n".intercalate (statements.map (writing.text lead)) := by
  rw [file, Draft.value_map, Draft.value_all_map]
  rfl

/-- Printing a file gives what is written. -/
theorem print_file (config : Config) (statements : List Statement) :
    ((Outline.file (grammar.outlines statements)).print
        (.initial config [.indent, .trace])).map Prod.fst
      = ((writing.file statements).settle config).map Except.ok := by
  have hdrafts : List.Forall₂ (Drafts .usual config) (grammar.outlines statements)
      (statements.map writing.draft) :=
    drafts_map fun statement _ => writing.drafts_statement config statement
  exact print_of_drafts hdrafts

/-- If the lead of one level is too long to be held, a file is printed all the same as long
    as none of its statements needs the lead. -/
theorem print_file_eq (config : Config) (statements : List Statement) :
    ((Outline.file (grammar.outlines statements)).print
        (.initial config [.indent, .trace])).map Prod.fst
      = match config.indent.process 1 with
        | .ok lead => .ok (.ok ((writing.file statements).value lead))
        | .error cause =>
          if statements.any writing.asks then .error cause
          else .ok (.ok ((writing.file statements).value "")) := by
  rw [print_file]
  cases hlead : config.indent.process 1 with
  | ok lead =>
      rw [Draft.settle_of_ok hlead]
      rfl
  | error cause =>
      -- Without a lead it is decided by whether any statement asks for it.
      rw [Draft.settle_of_error hlead, asks_file]
      by_cases hany : statements.any writing.asks = true
      · simp only [hany, if_true, Except.map]
      · simp only [hany, Bool.false_eq_true, if_false, Except.map]

/-- With any watchers, printing a file is given up exactly if the lead of one level is too
    long and somebody needs it: a literal that takes several lines or, if anything is
    indented at all, a block. -/
theorem print_file_eq_error_iff (watchers : Watchers) (config : Config)
    (statements : List Statement) (cause : Overflow) :
    ((Outline.file (grammar.outlines statements)).print
        (.initial config watchers.middlewares)).map Prod.fst = .error cause ↔
      config.indent.process 1 = .error cause ∧
        (statements.any fun statement =>
          if watchers.indents = 0 then writing.wraps statement else writing.asks statement)
          = true := by
  have hall := writing.exists_drafted watchers
  choose draftOf hdrafted using hall
  have hdrafts : List.Forall₂ (Drafts watchers config) (grammar.outlines statements)
      (statements.map draftOf) :=
    drafts_map fun statement _ => (hdrafted statement).drafts config
  have hasks : ((Draft.all (statements.map draftOf)).map "\n".intercalate).asks
      = statements.any fun statement =>
        if watchers.indents = 0 then writing.wraps statement else writing.asks statement := by
    rw [Draft.asks_map, Draft.asks_all_map]
    exact congrArg _ (funext fun statement => (hdrafted statement).asks_eq)
  rw [print_of_drafts hdrafts, ← hasks, ← Draft.settle_eq_error_iff]
  cases ((Draft.all (statements.map draftOf)).map "\n".intercalate).settle config with
  | error other => simp only [Except.map, Except.error.injEq]
  | ok text => simp only [Except.map, reduceCtorEq]

end Writing

end Code

end ClassForge
