import ClassForge.Proofs.Print.Watched
import ClassForge.Proofs.Text.Indentation

/-!
# Lines of Leaves

Where every line of an indented text comes from. A tree of fixed texts, forwarding
printers and sequences of statements only ever puts lines in a row, so with
indentation alone its lines are those of the fixed texts, in order. What is in front
of a line are the leads of the sequences around it.

Indentation works from the inside out. The text of a sequence is indented when it is
complete, and then again, as a part of the text of the next sequence up. Nobody counts
levels, and every sequence has the lead of its own frame, whatever state the generator
made for it. Only emptiness needs care. A sequence that has no text at all is left
alone, so an empty line stays without the leads of those sequences in which there is
nothing but that line. As soon as there is another line beside it, it is led like any
other.

`Passage` is such a tree without its ids and places. `Passage.lines` follows the
states down the tree and collects the lines, and `Passage.drawn` is the text that is
made on the way up.

## Main definitions

* `Passage`, `Passage.PrintedBy`: What a tree prints, and the trees that do.
* `LeafLine`, `LeafLine.written`: A line with the sequences around it, and how it is
  printed.
* `Passage.lines`: The lines of a passage.
* `Passage.Fits`: Nothing overflows.

## Theorems

* `LeafLine.leadLines_joined`: What a sequence does to the lines below it.
* `Passage.yields_drawn`: The text of a tree against a frame.
* `Passage.drawn_of_fits`, `Passage.fits_of_drawn`: There is a text exactly if nothing
  overflows, and it is made of the lines.
* `leaves_indented`: The lines of a printed tree.
-/

namespace ClassForge

namespace Print

/-- What is left of a tree of fixed texts, forwarding printers with a single child
    and sequences of statements when ids and places are forgotten. -/
inductive Passage where
  | text (name content : String)
  | forward (passage : Passage)
  | sequence (passages : List Passage)

/-- A sequence of statements around a line: the level count of its frame, and the
    texts of its statements joined. -/
structure Enclosing where
  size : Size
  joined : String
  deriving DecidableEq

/-- A line of a fixed text, with the sequences around it from the outermost in. -/
structure LeafLine where
  content : String
  around : List Enclosing
  deriving DecidableEq

/-- The lead of a level count, or none if it cannot be held. -/
def Indent.leadAt (indent : Indent) (size : Size) : String :=
  (indent.process size).toOption.getD ""

/-- The state of a child frame, or the same state if there is none. -/
def StateGenerator.below (generator : StateGenerator) (state : IndentState) : IndentState :=
  (generator state .keep).toOption.getD state

namespace LeafLine

/-- The sequences that put a lead in front of a line: all of them, but an empty line is
    not led by a sequence that has no text. -/
def leaders (line : LeafLine) : List Enclosing :=
  if line.content = "" then line.around.filter fun sequence => sequence.joined ≠ ""
  else line.around

/-- A line as it is printed: the leads from the outermost in, and then the line. -/
def written (indent : Indent) (line : LeafLine) : String :=
  String.join (line.leaders.map fun sequence => indent.leadAt sequence.size) ++ line.content

/-- The line with one more sequence around all others. -/
def within (sequence : Enclosing) (line : LeafLine) : LeafLine :=
  { line with around := sequence :: line.around }

end LeafLine

namespace Passage

mutual

/-- A tree whose printers are those of a passage, wherever they stand. -/
inductive PrintedBy : Passage → Tree → Prop where
  | text (id : Nat) (parentKind : Option Kind) (name content : String) :
      PrintedBy (.text name content) (.node id parentKind (.text name content) [])
  | forward (id : Nat) (parentKind : Option Kind) {passage : Passage} {child : Tree}
      (h : PrintedBy passage child) :
      PrintedBy (.forward passage) (.node id parentKind .passThrough [child])
  | sequence (id : Nat) (parentKind : Option Kind) {passages : List Passage}
      {children : List Tree} (h : AllPrintedBy passages children) :
      PrintedBy (.sequence passages) (.node id parentKind .sequence children)

/-- Trees that belong to passages one by one. -/
inductive AllPrintedBy : List Passage → List Tree → Prop where
  | nil : AllPrintedBy [] []
  | cons {passage : Passage} {passages : List Passage} {tree : Tree} {trees : List Tree}
      (h : PrintedBy passage tree) (hs : AllPrintedBy passages trees) :
      AllPrintedBy (passage :: passages) (tree :: trees)

end

mutual

/-- The lines of the fixed texts in order. A sequence without statements counts as an
    empty line. -/
def leafTexts : Passage → List String
  | .text _ content => Text.lines content
  | .forward passage => passage.leafTexts
  | .sequence [] => [""]
  | .sequence (passage :: passages) => passage.leafTexts ++ allLeafTexts passages

def allLeafTexts : List Passage → List String
  | [] => []
  | passage :: passages => passage.leafTexts ++ allLeafTexts passages

end

mutual

/-- The lines of the fixed texts in order, with the sequences around each of them. The
    state is that of the frame of the passage itself. -/
def lines (indent : Indent) (generator : StateGenerator) : Passage → IndentState → List LeafLine
  | .text _ content, _ => (Text.lines content).map fun line => ⟨line, []⟩
  | .forward passage, state => passage.lines indent generator (generator.below state)
  | .sequence passages, state =>
    let inner := allLines indent generator passages (generator.below state)
    let own : Enclosing := ⟨state.size, "\n".intercalate (inner.map (LeafLine.written indent))⟩
    (if passages.isEmpty then [⟨"", []⟩] else inner).map (LeafLine.within own)

def allLines (indent : Indent) (generator : StateGenerator) :
    List Passage → IndentState → List LeafLine
  | [], _ => []
  | passage :: passages, state =>
    passage.lines indent generator state ++ allLines indent generator passages state

end

mutual

/-- Nothing overflows: every child frame has a state, and the lead of every sequence
    can be held. -/
def Fits (indent : Indent) (generator : StateGenerator) : Passage → IndentState → Prop
  | .text _ _, _ => True
  | .forward passage, state => ∃ below, generator state .keep = .ok below ∧
      passage.Fits indent generator below
  | .sequence passages, state => (∃ lead, indent.process state.size = .ok lead) ∧
      (passages ≠ [] → ∃ below, generator state .keep = .ok below ∧
        AllFit indent generator passages below)

def AllFit (indent : Indent) (generator : StateGenerator) : List Passage → IndentState → Prop
  | [], _ => True
  | passage :: passages, state =>
    passage.Fits indent generator state ∧ AllFit indent generator passages state

end

mutual

/-- The text of a passage against a frame in a state, up to the first overflow. -/
def drawn (config : Config) (generator : StateGenerator) :
    Passage → IndentState → Except Overflow String
  | .text _ content, _ => .ok content
  | .forward passage, state => (generator state .keep).bind (passage.drawn config generator)
  | .sequence passages, state =>
    (((answers config generator passages state).mapM id).map "\n".intercalate).bind
      (config.finish .statementSequence state.size)

/-- What a frame in a state gets when it asks for passages below it. -/
def answers (config : Config) (generator : StateGenerator) :
    List Passage → IndentState → List (Except Overflow String)
  | [], _ => []
  | passage :: passages, state =>
    (generator state .keep).bind (passage.drawn config generator) ::
      answers config generator passages state

end

end Passage

/-- A frame that is watched by the indenting middleware alone. -/
structure Context.Led (config : Config) (generator : StateGenerator)
    (context : Context Middleware) : Prop where
  config_eq : context.config = config
  generator_eq : context.settings.generator = generator
  middlewares_eq : context.middlewares = [.indent]

section Frames

open Rendering

variable {config : Config} {generator : StateGenerator} {context : Context Middleware}

theorem Context.Led.enter (h : context.Led config generator) (kind : Kind) :
    (context.enter kind).Led config generator :=
  ⟨h.config_eq, h.generator_eq, h.middlewares_eq⟩

theorem Context.Led.gives_configure (h : context.Led config generator) :
    Effect.Gives (context.configure Middleware.hooks) (.ok context) := by
  intro record
  refine ⟨record, ?_⟩
  rw [configure, h.middlewares_eq]
  simp only [List.foldlM_cons, List.foldlM_nil, Middleware.hooks, Middleware.configure,
    pure_bind, apply_same]
  rfl

theorem Context.Led.gives_transform (h : context.Led config generator) (kind : Kind)
    (text : String) :
    Effect.Gives ((context.enter kind).transform Middleware.hooks text)
      (config.finish kind context.state.size text) := by
  have hindent : Effect.Gives (Middleware.transform .indent (context.enter kind) text)
      ((context.enter kind).indentText text) := Effect.gives_lift _
  rw [transform, (h.enter kind).middlewares_eq, ← indentText_enter h.config_eq]
  simp only [List.foldlM_cons, List.foldlM_nil, bind_pure]
  exact hindent

theorem Context.Led.gives_child (h : context.Led config generator) :
    Effect.Gives (context.child Middleware.hooks .keep fun same => same)
      ((generator context.state .keep).map fun state => context.below state) := by
  cases hstate : generator context.state .keep with
  | error cause =>
      intro record
      rw [child, h.generator_eq, hstate]
      rfl
  | ok state =>
      intro record
      refine ⟨record, ?_⟩
      rw [child, h.generator_eq, hstate, h.middlewares_eq]
      simp only [List.foldlM_cons, List.foldlM_nil, Middleware.hooks, Middleware.configureChild,
        pure_bind, apply_same]
      rfl

/-- What is rendered against a child frame goes on from the state that the generator
    makes for it. -/
theorem Context.Led.yields_below (h : context.Led config generator)
    {render : Renderer Journal Middleware} {text : IndentState → Except Overflow String}
    (hrender : ∀ {frame : Context Middleware}, frame.Led config generator →
      Yields (render frame) (text frame.state)) :
    Yields (liftM (context.child Middleware.hooks .keep fun same => same) >>= render)
      ((generator context.state .keep).bind text) := by
  have hgives := h.gives_child
  cases hstate : generator context.state .keep with
  | error cause =>
      rw [hstate] at hgives
      have hnone : ∀ frame, (.error cause : Except Overflow (Context Middleware)) = .ok frame →
          Yields (render frame) (text frame.state) := fun _ hframe => nomatch hframe
      exact yields_bind (yields_lift hgives) hnone
  | ok state =>
      rw [hstate] at hgives
      have hframe : (context.below state).Led config generator :=
        ⟨h.config_eq, h.generator_eq, h.middlewares_eq⟩
      exact yields_after hgives (hrender hframe)

/-- A printer that combines what is below it. -/
theorem Context.Led.yields_combined (h : context.Led config generator) {slot count : Nat}
    {parentKind : Option Kind} {printer : Printer} {children : List Tree}
    {combine : List String → String} {outcomes : List (Except Overflow String)}
    (hcombines : printer.Combines count combine) (hcount : children.length = count)
    (hanswers : List.Forall₂ (fun render outcome =>
      Yields (liftM ((context.enter printer.kind).child Middleware.hooks .keep fun same => same)
        >>= render) outcome) (Tree.renderers Middleware.hooks children) outcomes) :
    Yields ((Tree.node slot parentKind printer children).render Middleware.hooks context)
      (((outcomes.mapM id).map combine).bind (config.finish printer.kind context.state.size)) := by
  have hscope : (Tree.scope (.node slot parentKind printer children)).children.length
      = children.length := List.length_map _
  have hsame : (Tree.renderers Middleware.hooks children).length = children.length := by
    rw [Tree.renderers_eq_map, List.length_map]
  have htexts : Yields ((Tree.scope (.node slot parentKind printer children)).texts.run
      Middleware.hooks printer.kind (Tree.renderers Middleware.hooks children)
      (context.enter printer.kind)) (outcomes.mapM id) :=
    yields_answers (hscope.trans hsame.symm) hanswers
  rw [Tree.render]
  refine yields_finished (h.enter printer.kind).gives_configure ?_ (h.gives_transform printer.kind)
  rw [hcombines _ _ (hscope.trans hcount), Layout.run_bind]
  exact yields_map htexts combine

end Frames

namespace Passage

open Rendering

variable {config : Config} {generator : StateGenerator}

mutual

theorem yields_drawn : (passage : Passage) → {tree : Tree} → passage.PrintedBy tree →
    ∀ {context : Context Middleware}, context.Led config generator →
    Yields (tree.render Middleware.hooks context) (passage.drawn config generator context.state)
  | .text _ _, _, .text id parentKind name content, context, hled => by
    have htext : Yields
        ((Tree.node id parentKind (.text name content) []).render Middleware.hooks context) _ :=
      hled.yields_combined (Printer.combines_text name content) rfl
        (.nil : List.Forall₂ _ (Tree.renderers Middleware.hooks []) [])
    exact htext
  | .forward passage, _, h, context, hled => by
    cases h with
    | @forward id parentKind _ child hchild =>
        have hbelow := (hled.enter .passThrough).yields_below (yields_drawn passage hchild)
        have hforward : Yields
            ((Tree.node id parentKind .passThrough [child]).render Middleware.hooks context) _ :=
          hled.yields_combined Printer.combines_passThrough rfl
            (.cons hbelow .nil : List.Forall₂ _ (Tree.renderers Middleware.hooks [child]) [_])
        have hsame : (context.enter .passThrough).state = context.state := rfl
        rw [hsame] at hforward
        rw [drawn]
        cases hmade : (generator context.state .keep).bind (passage.drawn config generator) with
        | error cause => rwa [hmade] at hforward
        | ok made =>
            -- A single text is combined into itself.
            have hjoin : String.join [made] = made := by
              rw [String.join_cons, String.join_nil, String.append_empty]
            rw [hmade] at hforward
            change Yields _ (.ok (String.join [made])) at hforward
            rwa [hjoin] at hforward
  | .sequence passages, _, .sequence id parentKind hchildren, context, hled => by
    have hanswers := yields_allDrawn passages hchildren (hled.enter .statementSequence)
    exact hled.yields_combined (Printer.combines_sequence _) rfl hanswers

theorem yields_allDrawn : (passages : List Passage) → {trees : List Tree} →
    AllPrintedBy passages trees → ∀ {context : Context Middleware}, context.Led config generator →
    List.Forall₂ (fun render outcome =>
      Yields (liftM (context.child Middleware.hooks .keep fun same => same) >>= render) outcome)
      (Tree.renderers Middleware.hooks trees) (answers config generator passages context.state)
  | [], _, .nil, _, _ => .nil
  | passage :: passages, _, .cons htree hrest, _, hled =>
    .cons (hled.yields_below (yields_drawn passage htree)) (yields_allDrawn passages hrest hled)

end

end Passage

theorem StateGenerator.below_eq {generator : StateGenerator} {state below : IndentState}
    (h : generator state .keep = .ok below) : generator.below state = below := by
  rw [StateGenerator.below, h]
  rfl

theorem Indent.leadAt_eq {indent : Indent} {size : Size} {lead : String}
    (h : indent.process size = .ok lead) : indent.leadAt size = lead := by
  rw [Indent.leadAt, h]
  rfl

theorem Indent.lineFeed_notMem_leadAt {indent : Indent}
    (hfiller : '\n' ∉ indent.style.filler.toList) (size : Size) :
    '\n' ∉ (indent.leadAt size).toList := by
  cases hlead : indent.process size with
  | ok lead =>
      rw [Indent.leadAt_eq hlead]
      exact fun hmem => hfiller (Indent.mem_filler_of_process hlead _ hmem)
  | error cause =>
      rw [Indent.leadAt, hlead]
      exact List.not_mem_nil

namespace LeafLine

variable {indent : Indent}

theorem written_within {own : Enclosing} (hjoined : own.joined ≠ "") (line : LeafLine) :
    (line.within own).written indent = indent.leadAt own.size ++ line.written indent := by
  have hleaders : (line.within own).leaders = own :: line.leaders := by
    unfold leaders within
    by_cases hcontent : line.content = ""
    · rw [if_pos hcontent, if_pos hcontent, List.filter_cons_of_pos (by simpa using hjoined)]
    · rw [if_neg hcontent, if_neg hcontent]
  rw [written, hleaders, List.map_cons, String.join_cons, String.append_assoc]
  rfl

theorem written_within_silent {own : Enclosing} {line : LeafLine} (hjoined : own.joined = "")
    (hcontent : line.content = "") :
    (line.within own).written indent = line.written indent := by
  have hleaders : (line.within own).leaders = line.leaders := by
    unfold leaders within
    rw [if_pos hcontent, if_pos hcontent, List.filter_cons_of_neg (by simpa using hjoined)]
  rw [written, hleaders]
  rfl

theorem written_bare (content : String) :
    (⟨content, []⟩ : LeafLine).written indent = content := by
  unfold written leaders
  split <;> exact String.empty_append

theorem content_of_written {line : LeafLine} (h : line.written indent = "") :
    line.content = "" := by
  rw [written, String.append_eq_empty_iff] at h
  exact h.2

theorem lineFeed_notMem_written (hfiller : '\n' ∉ indent.style.filler.toList)
    {lines : List LeafLine} {texts : List String} (hcontents : lines.map content = texts)
    (htexts : ∀ text ∈ texts, '\n' ∉ text.toList) :
    ∀ line ∈ lines, '\n' ∉ (line.written indent).toList := by
  intro line hline
  have hcontent : '\n' ∉ line.content.toList := by
    refine htexts _ ?_
    rw [← hcontents]
    exact List.mem_map_of_mem hline
  rw [written, String.toList_append, String.toList_join, List.mem_append, not_or]
  refine ⟨?_, hcontent⟩
  simp only [List.mem_flatMap, List.mem_map]
  rintro ⟨lead, ⟨sequence, -, rfl⟩, hmem⟩
  exact Indent.lineFeed_notMem_leadAt hfiller _ hmem

/-- A sequence puts its lead in front of every line below it, unless all that is below
    it is a single empty line. -/
theorem leadLines_joined {inner : List LeafLine} {own : Enclosing} (hne : inner ≠ [])
    (hinner : ∀ line ∈ inner, '\n' ∉ (line.written indent).toList)
    (hown : own.joined = "\n".intercalate (inner.map (written indent))) :
    Text.leadLines (indent.leadAt own.size) own.joined
      = "\n".intercalate ((inner.map (within own)).map (written indent)) := by
  have hlines : Text.lines own.joined = inner.map (written indent) := by
    rw [hown]
    refine Text.lines_intercalate (by rwa [ne_eq, List.map_eq_nil_iff]) ?_
    rwa [List.forall_mem_map]
  rw [Text.leadLines_eq_indented, Text.indented, List.map_map]
  by_cases hjoined : own.joined = ""
  · -- No line feed and no character: there is one line, and it is empty.
    rw [if_pos hjoined]
    rw [hjoined] at hlines
    change [""] = _ at hlines
    rcases List.map_eq_singleton_iff.mp hlines.symm with ⟨line, rfl, hline⟩
    have hcontent := content_of_written hline
    rw [List.map_singleton, Function.comp_apply, written_within_silent hjoined hcontent, hline]
    exact String.intercalate_singleton.symm
  · rw [if_neg hjoined, hlines, List.map_map]
    congr 1
    refine List.map_congr_left fun line _ => ?_
    exact (written_within hjoined line).symm

end LeafLine

namespace Passage

variable {config : Config} {indent : Indent} {generator : StateGenerator}

mutual

theorem lines_ne_nil : (passage : Passage) → (state : IndentState) →
    passage.lines indent generator state ≠ []
  | .text _ content, _ => by
    rw [lines, ne_eq, List.map_eq_nil_iff]
    exact Text.lines_ne_nil content
  | .forward passage, state => by
    rw [lines]
    exact lines_ne_nil passage _
  | .sequence passages, state => by
    rw [lines, ne_eq, List.map_eq_nil_iff]
    split
    · exact List.cons_ne_nil _ _
    · rename_i hsome
      refine allLines_ne_nil passages _ fun hnil => hsome ?_
      rw [hnil]
      rfl

theorem allLines_ne_nil : (passages : List Passage) → (state : IndentState) →
    passages ≠ [] → allLines indent generator passages state ≠ []
  | [], _, hne => absurd rfl hne
  | passage :: passages, state, _ => by
    rw [allLines]
    exact List.append_ne_nil_of_left_ne_nil (lines_ne_nil passage state) _

end

mutual

theorem map_content_lines : (passage : Passage) → (state : IndentState) →
    (passage.lines indent generator state).map LeafLine.content = passage.leafTexts
  | .text _ content, _ => by
    rw [lines, leafTexts, List.map_map]
    exact List.map_id _
  | .forward passage, state => by
    rw [lines, leafTexts, map_content_lines passage]
  | .sequence [], _ => rfl
  | .sequence (passage :: passages), state => by
    rw [lines, leafTexts, List.map_map]
    exact map_content_allLines (passage :: passages) _

theorem map_content_allLines : (passages : List Passage) → (state : IndentState) →
    (allLines indent generator passages state).map LeafLine.content = allLeafTexts passages
  | [], _ => rfl
  | passage :: passages, state => by
    rw [allLines, allLeafTexts, List.map_append, map_content_lines passage,
      map_content_allLines passages]

end

mutual

theorem lineFeed_notMem_leafTexts : (passage : Passage) →
    ∀ text ∈ passage.leafTexts, '\n' ∉ text.toList
  | .text _ content => Text.lineFeed_notMem_lines content
  | .forward passage => lineFeed_notMem_leafTexts passage
  | .sequence [] => by
    rw [leafTexts, List.forall_mem_singleton, String.toList_empty]
    exact List.not_mem_nil
  | .sequence (passage :: passages) => by
    rw [leafTexts]
    exact List.forall_mem_append.mpr
      ⟨lineFeed_notMem_leafTexts passage, lineFeed_notMem_allLeafTexts passages⟩

theorem lineFeed_notMem_allLeafTexts : (passages : List Passage) →
    ∀ text ∈ allLeafTexts passages, '\n' ∉ text.toList
  | [] => List.forall_mem_nil _
  | passage :: passages => by
    rw [allLeafTexts]
    exact List.forall_mem_append.mpr
      ⟨lineFeed_notMem_leafTexts passage, lineFeed_notMem_allLeafTexts passages⟩

end

-- The first answer, and the others behind it.
theorem answers_cons {state : IndentState} {passage : Passage} {passages : List Passage}
    {texts : List String} :
    (answers config generator (passage :: passages) state).mapM id = .ok texts ↔
      ∃ text rest, (generator state .keep).bind (passage.drawn config generator) = .ok text ∧
        (answers config generator passages state).mapM id = .ok rest ∧ texts = text :: rest := by
  rw [answers, List.mapM_cons, id]
  cases (generator state .keep).bind (passage.drawn config generator) with
  | error cause => simp only [bind, Except.bind, reduceCtorEq, false_and, exists_const]
  | ok text =>
      cases (answers config generator passages state).mapM id with
      | error cause =>
          simp only [bind, Except.bind, reduceCtorEq, false_and, and_false, exists_const]
      | ok rest =>
          simp only [bind, Except.bind, pure, Except.pure, Except.ok.injEq, exists_and_left,
            exists_eq_left', eq_comm]

mutual

/-- Without an overflow a passage is printed as its lines are. -/
theorem drawn_of_fits (hfiller : '\n' ∉ config.indent.style.filler.toList) :
    (passage : Passage) → (state : IndentState) → passage.Fits config.indent generator state →
    passage.drawn config generator state = .ok ("\n".intercalate
      ((passage.lines config.indent generator state).map (LeafLine.written config.indent)))
  | .text _ content, _, _ => by
    have hlines : (Text.lines content).map
        (LeafLine.written config.indent ∘ fun line => ⟨line, []⟩) = Text.lines content :=
      (List.map_congr_left fun line _ => LeafLine.written_bare line).trans (List.map_id _)
    rw [drawn, lines, List.map_map, hlines, Text.intercalate_lines]
  | .forward passage, state, h => by
    rcases h with ⟨below, hbelow, h⟩
    rw [drawn, lines, StateGenerator.below_eq hbelow, hbelow]
    exact drawn_of_fits hfiller passage below h
  | .sequence [], state, h => by
    rcases h with ⟨⟨lead, hlead⟩, -⟩
    rw [drawn, answers]
    change config.finish .statementSequence state.size "" = _
    rw [Config.finish, if_pos rfl, hlead, lines]
    change Except.ok (Text.leadLines lead "") = .ok ("\n".intercalate
      [(LeafLine.within ⟨state.size, ""⟩ ⟨"", []⟩).written config.indent])
    rw [LeafLine.written_within_silent rfl rfl, LeafLine.written_bare, Text.leadLines,
      if_pos (Or.inr rfl), String.intercalate_singleton]
  | .sequence (passage :: passages), state, h => by
    rcases h with ⟨⟨lead, hlead⟩, h⟩
    rcases h (List.cons_ne_nil _ _) with ⟨below, hbelow, h⟩
    rcases answers_of_allFit hfiller (passage :: passages) state hbelow h with
      ⟨texts, htexts, -, hjoined⟩
    -- The lines below carry no line feed, so the lead of this level goes in front of each.
    have hled := LeafLine.leadLines_joined
      (allLines_ne_nil _ below (List.cons_ne_nil passage passages))
      (LeafLine.lineFeed_notMem_written hfiller (map_content_allLines (passage :: passages) below)
        (lineFeed_notMem_allLeafTexts (passage :: passages)))
      (show Enclosing.joined ⟨state.size, "\n".intercalate texts⟩ = _ from hjoined)
    rw [drawn, htexts, lines, StateGenerator.below_eq hbelow]
    change config.finish .statementSequence state.size _ = _
    rw [Config.finish, if_pos rfl, hlead, ← hjoined]
    rw [Indent.leadAt_eq hlead] at hled
    exact congrArg Except.ok hled

/-- Without an overflow passages are answered with their lines. -/
theorem answers_of_allFit (hfiller : '\n' ∉ config.indent.style.filler.toList) :
    (passages : List Passage) → (state : IndentState) → {below : IndentState} →
    generator state .keep = .ok below → AllFit config.indent generator passages below →
    ∃ texts, (answers config generator passages state).mapM id = .ok texts ∧
      texts.length = passages.length ∧ "\n".intercalate texts = "\n".intercalate
        ((allLines config.indent generator passages below).map (LeafLine.written config.indent))
  | [], _, _, _, _ => ⟨[], rfl, rfl, rfl⟩
  | passage :: passages, state, below, hbelow, h => by
    rcases h with ⟨hfirst, hrest⟩
    rcases answers_of_allFit hfiller passages state hbelow hrest with
      ⟨texts, htexts, hlength, hjoined⟩
    have hanswer : (generator state .keep).bind (passage.drawn config generator)
        = passage.drawn config generator below := by
      rw [hbelow]
      rfl
    have hdrawn := hanswer.trans (drawn_of_fits hfiller passage below hfirst)
    refine ⟨_, answers_cons.mpr ⟨_, texts, hdrawn, htexts, rfl⟩, ?_, ?_⟩
    · rw [List.length_cons, hlength, List.length_cons]
    · rw [allLines, List.map_append]
      cases passages with
      | nil =>
          rw [List.length_eq_zero_iff.mp hlength, String.intercalate_singleton, allLines,
            List.map_nil, List.append_nil]
      | cons next passages =>
          have hne : texts ≠ [] := by
            rintro rfl
            cases hlength
          rw [String.intercalate_cons_of_ne_nil hne, hjoined, String.intercalate_append_of_ne_nil]
          · rw [ne_eq, List.map_eq_nil_iff]
            exact lines_ne_nil passage below
          · rw [ne_eq, List.map_eq_nil_iff]
            exact allLines_ne_nil _ below (List.cons_ne_nil _ _)

end

mutual

/-- A passage that is printed has not overflowed anywhere. -/
theorem fits_of_drawn : (passage : Passage) → (state : IndentState) → {made : String} →
    passage.drawn config generator state = .ok made → passage.Fits config.indent generator state
  | .text _ _, _, _, _ => trivial
  | .forward passage, state, _, h => by
    rw [drawn] at h
    cases hbelow : generator state .keep with
    | error cause =>
        rw [hbelow] at h
        cases h
    | ok below =>
        rw [hbelow] at h
        exact ⟨below, hbelow, fits_of_drawn passage below h⟩
  | .sequence passages, state, _, h => by
    rw [drawn] at h
    cases htexts : (answers config generator passages state).mapM id with
    | error cause =>
        rw [htexts] at h
        cases h
    | ok texts =>
        rw [htexts] at h
        change config.finish .statementSequence state.size _ = _ at h
        rw [Config.finish, if_pos rfl] at h
        -- The lead was needed to finish the text, and the level below as soon as there was a part.
        refine ⟨?_, fun hne => ?_⟩
        · cases hlead : config.indent.process state.size with
          | error cause =>
              rw [hlead] at h
              cases h
          | ok lead => exact ⟨lead, rfl⟩
        · cases hbelow : generator state .keep with
          | ok below => exact ⟨below, rfl, allFit_of_answers passages state hbelow htexts⟩
          | error cause =>
              cases passages with
              | nil => exact absurd rfl hne
              | cons passage passages =>
                  rcases answers_cons.mp htexts with ⟨first, rest, hfirst, -⟩
                  rw [hbelow] at hfirst
                  cases hfirst

theorem allFit_of_answers : (passages : List Passage) → (state : IndentState) →
    {below : IndentState} → generator state .keep = .ok below → {texts : List String} →
    (answers config generator passages state).mapM id = .ok texts →
    AllFit config.indent generator passages below
  | [], _, _, _, _, _ => trivial
  | passage :: passages, state, below, hbelow, texts, h => by
    rcases answers_cons.mp h with ⟨text, rest, htext, hrest, -⟩
    rw [hbelow] at htext
    exact ⟨fits_of_drawn passage below htext, allFit_of_answers passages state hbelow hrest⟩

end

end Passage

/-- A tree of fixed texts, forwarding printers and sequences, printed with indentation
    alone. Its lines are the lines of the fixed texts, one by one and in order, each
    behind the leads of the sequences around it. It is printed unless a state or a lead
    overflows. -/
theorem leaves_indented {passage : Passage} {tree : Tree} (hprinted : passage.PrintedBy tree)
    {root : Context Middleware} (hroot : root.middlewares = [.indent])
    (hfiller : '\n' ∉ root.config.indent.style.filler.toList) :
    let indent := root.config.indent
    let generator := root.settings.generator
    let lines := passage.lines indent generator root.state
    lines.map LeafLine.content = passage.leafTexts ∧
    (passage.Fits indent generator root.state → ∃ text journal,
      tree.print root = .ok (.ok text, journal) ∧
        Text.lines text = lines.map (LeafLine.written indent)) ∧
    (¬ passage.Fits indent generator root.state → ∃ cause, tree.print root = .error cause) := by
  intro indent generator lines
  have hled : root.Led root.config generator := ⟨rfl, rfl, hroot⟩
  have hyields := passage.yields_drawn hprinted hled
  refine ⟨passage.map_content_lines root.state, fun hfits => ?_, fun hnot => ?_⟩
  · rw [passage.drawn_of_fits hfiller root.state hfits] at hyields
    rcases hyields Journal.empty with ⟨journal, hrun⟩
    refine ⟨_, journal, hrun, Text.lines_intercalate ?_ ?_⟩
    · rw [ne_eq, List.map_eq_nil_iff]
      exact passage.lines_ne_nil root.state
    · rw [List.forall_mem_map]
      exact LeafLine.lineFeed_notMem_written hfiller (passage.map_content_lines root.state)
        passage.lineFeed_notMem_leafTexts
  · cases hdrawn : passage.drawn root.config generator root.state with
    | ok text => exact absurd (passage.fits_of_drawn root.state hdrawn) hnot
    | error cause =>
        rw [hdrawn] at hyields
        exact ⟨cause, hyields Journal.empty⟩

/-- An empty statement alone in its sequence has the lead of the outer sequence only,
    and an empty line between others has that of its own as well. -/
theorem leaves_indented_nested :
    let passage : Passage := .sequence [.forward (.sequence [.text "Raw" ""]),
      .sequence [.text "Raw" "a\n", .text "Raw" "b"], .sequence []]
    let tree : Tree := .node 0 none .sequence
      [.node 1 (some .statementSequence) .passThrough
          [.node 2 (some .passThrough) .sequence
            [.node 3 (some .statementSequence) (.text "Raw" "") []]],
        .node 4 (some .statementSequence) .sequence
          [.node 5 (some .statementSequence) (.text "Raw" "a\n") [],
            .node 6 (some .statementSequence) (.text "Raw" "b") []],
        .node 7 (some .statementSequence) .sequence []]
    let root : Context Middleware :=
      ⟨⟨⟨⟨2, .ofSpan "+" 1⟩, .plus 1, ⟨1, []⟩⟩, [.indent], none⟩, []⟩
    passage.PrintedBy tree ∧ ∃ text journal, tree.print root = .ok (.ok text, journal) ∧
      Text.lines text = ["++", "++++++a", "++++++", "++++++b", "++"] := by
  intro passage tree root
  have hprinted : passage.PrintedBy tree :=
    .sequence _ _ (.cons (.forward _ _ (.sequence _ _ (.cons (.text _ _ _ _) .nil)))
      (.cons (.sequence _ _ (.cons (.text _ _ _ _) (.cons (.text _ _ _ _) .nil)))
        (.cons (.sequence _ _ .nil) .nil)))
  have hone : root.config.indent.process 1 = .ok "++" := by decide +kernel
  have htwo : root.config.indent.process 2 = .ok "++++" := by decide +kernel
  have hthree : root.config.indent.process 3 = .ok "++++++" := by decide +kernel
  have hfits : passage.Fits root.config.indent root.settings.generator root.state :=
    ⟨⟨_, hone⟩, fun _ => ⟨_, rfl,
      ⟨_, rfl, ⟨_, hthree⟩, fun _ => ⟨_, rfl, trivial, trivial⟩⟩,
      ⟨⟨_, htwo⟩, fun _ => ⟨_, rfl, trivial, trivial, trivial⟩⟩,
      ⟨⟨_, htwo⟩, fun hne => absurd rfl hne⟩, trivial⟩⟩
  rcases (leaves_indented hprinted rfl (by decide)).2.1 hfits with ⟨text, journal, hprint, hlines⟩
  refine ⟨hprinted, text, journal, hprint, hlines.trans ?_⟩
  decide +kernel

end Print

end ClassForge
