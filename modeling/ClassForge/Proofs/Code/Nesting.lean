import ClassForge.Proofs.Code.Onlookers

/-!
# Two Levels of Indentation

The body of a method in a class is two levels deep, and nowhere is that level counted.
The body is indented by one level when its text is complete, and by one level again as a
part of the text of the class. An indent can also be asked for two levels at once. Then it
turns both levels into columns first and fills them together.

The two are not the same. Columns that do not fill a whole span are dropped, and the
body drops them twice where two levels at once drop them once. So with three columns a
level and a tab for every two of them, a body has two tabs and two levels at once are
three tabs. How many columns are dropped from a level decides about it: as long as twice
of them do not fill a span, the body is as deep as two levels at once, and otherwise it is
short of a filler.

## Main definitions

* `Text.nestedLines`: The lines of a block in a block.
* `Php.linesOf`, `TypeScript.linesOf`: The lines of statements, written down.

## Theorems

* `Indent.process_two`: One level twice, and two levels at once.
* `Text.lines_nested`: Indenting twice gives those lines.
* `bodies_led_twice`: The lines of a class with a method, printed.
* `tabs_fall_short`: A body that is not as deep as two levels at once.
-/

namespace ClassForge

namespace Text

theorem repeated_add (unit : String) (m n : Nat) :
    repeated unit m ++ repeated unit n = repeated unit (m + n) := by
  apply String.ext
  rw [String.toList_append, toList_repeated, toList_repeated, toList_repeated,
    List.replicate_add, List.flatten_append]

/-- Repeating a text more often makes it longer, unless there is nothing to repeat. -/
theorem repeated_eq_iff (unit : String) (m n : Nat) :
    repeated unit m = repeated unit n ↔ unit = "" ∨ m = n := by
  have hlength : ∀ count, (repeated unit count).length = count * unit.length := by
    intro count
    rw [← String.length_toList, toList_repeated, List.length_flatten, List.map_replicate,
      List.sum_replicate_nat, String.length_toList]
  constructor
  · intro hsame
    have hlengths := congrArg String.length hsame
    rw [hlength, hlength] at hlengths
    by_cases hunit : unit = ""
    · exact Or.inl hunit
    · have hpos : 0 < unit.length := by
        have hne : unit.length ≠ 0 := fun hzero => hunit (String.length_eq_zero_iff.mp hzero)
        omega
      exact Or.inr (Nat.eq_of_mul_eq_mul_right hpos hlengths)
  · rintro (rfl | rfl)
    · simp only [repeated, if_true]
    · rfl

/-- Texts that are put together have something to show if they have a line that does. -/
theorem joined_ne_empty (texts : List String) {line : String}
    (hmem : line ∈ texts.flatMap lines) (hline : line ≠ "") : "\n".intercalate texts ≠ "" := by
  intro hempty
  have hne : texts ≠ [] := by
    rintro rfl
    exact List.not_mem_nil hmem
  have hlines := lines_joined hne
  rw [hempty] at hlines
  rw [← hlines] at hmem
  exact hline (List.mem_singleton.mp hmem)

theorem joined_around_ne_empty {line : String} (hline : '\n' ∉ line.toList) (hne : line ≠ "")
    (upper lower : List String) : "\n".intercalate (upper ++ line :: lower) ≠ "" := by
  have hmem : line ∈ (upper ++ line :: lower).flatMap lines := by
    rw [List.flatMap_append, List.flatMap_cons, lines_of_notMem hline]
    exact List.mem_append_right _ List.mem_cons_self
  exact joined_ne_empty _ hmem hne

/-- The lines of a block: what opens it, what stands inside behind a lead, and the brace
    that closes it. -/
theorem lines_braced {lead body : String} (hlead : '\n' ∉ lead.toList) (hbody : body ≠ "")
    (opening : String) :
    lines (opening ++ " \x7b\n" ++ indented lead body ++ "\n\x7d")
      = lines (opening ++ " \x7b") ++ (lines body).map (lead ++ ·) ++ ["\x7d"] := by
  have hopening : opening ++ " \x7b\n" = opening ++ " \x7b" ++ "\n" := by
    rw [String.append_assoc]
    rfl
  have hclosing : ∀ text : String, text ++ "\n\x7d" = text ++ "\n" ++ "\x7d" := by
    intro text
    rw [String.append_assoc]
    rfl
  rw [hclosing, lines_break, hopening, lines_break, lines_indented hlead hbody]
  rfl

/-- The lines of a block in a block: those around the inner block stand behind one lead,
    and its own behind two. -/
def nestedLines (lead : String) (opening earlier inner body later : List String) :
    List String :=
  opening ++ (earlier ++ inner).map (lead ++ ·) ++ body.map (lead ++ lead ++ ·)
    ++ ("\x7d" :: later).map (lead ++ ·) ++ ["\x7d"]

/-- A block in a block has its second lead from the outer block, which leads the inner one
    as it leads everything else. -/
theorem lines_nested {lead line : String} (hlead : '\n' ∉ lead.toList)
    (hline : '\n' ∉ line.toList) (hne : line ≠ "") (opening inner : String)
    (earlier upper lower later : List String) :
    lines (opening ++ " \x7b\n"
        ++ indented lead ("\n".intercalate (earlier
          ++ (inner ++ " \x7b\n" ++ indented lead ("\n".intercalate (upper ++ line :: lower))
            ++ "\n\x7d") :: later)) ++ "\n\x7d")
      = nestedLines lead (lines (opening ++ " \x7b")) (earlier.flatMap lines)
        (lines (inner ++ " \x7b")) (upper.flatMap lines ++ line :: lower.flatMap lines)
        (later.flatMap lines) := by
  have hbody : (upper ++ line :: lower).flatMap lines
      = upper.flatMap lines ++ line :: lower.flatMap lines := by
    rw [List.flatMap_append, List.flatMap_cons, lines_of_notMem hline]
    rfl
  have hinner := lines_braced hlead (joined_around_ne_empty hline hne upper lower) inner
  rw [lines_joined (by simp), hbody] at hinner
  -- The inner block has a brace of its own, so there is something to lead around it.
  have hbrace : "\x7d" ∈ (earlier ++ (inner ++ " \x7b\n"
      ++ indented lead ("\n".intercalate (upper ++ line :: lower)) ++ "\n\x7d") :: later).flatMap
        lines := by
    simp [hinner]
  have houterNe := joined_ne_empty _ hbrace (by decide)
  have htwice : ((lead ++ ·) ∘ (lead ++ ·) : String → String) = (lead ++ lead ++ ·) := by
    funext text
    exact String.append_assoc.symm
  rw [lines_braced hlead houterNe, lines_joined (by simp), List.flatMap_append, List.flatMap_cons,
    hinner]
  simp only [nestedLines, List.map_append, List.map_map, htwice, List.map_cons,
    String.append_assoc, List.append_assoc, List.cons_append, List.nil_append]

end Text

namespace Print

/-- Halving the columns of two levels loses nothing as long as what one level drops does
    not fill half a span. -/
theorem quotient_add_quotient_iff {size span : Nat} (hspan : 0 < span) :
    size / span + size / span = size * 2 / span ↔ 2 * (size % span) < span := by
  have hsplit : size * 2 = 2 * (size % span) + span * (2 * (size / span)) := by
    have hdivide := Nat.mod_add_div size span
    calc size * 2 = 2 * (size % span + span * (size / span)) := by omega
      _ = 2 * (size % span) + span * (2 * (size / span)) := by
        rw [Nat.mul_add, Nat.mul_left_comm]
  rw [hsplit, Nat.add_mul_div_left _ _ hspan]
  have hzero : 2 * (size % span) / span = 0 ↔ 2 * (size % span) < span := by
    rw [Nat.div_eq_zero_iff]
    omega
  rw [← hzero]
  omega

/-- If two levels at once have a lead, one level has one, too. Twice the lead of one level
    is that of two levels exactly if the columns that one level drops do not fill half a
    span, or if there is nothing to fill columns with. -/
theorem Indent.process_two {indent : Indent} {two : String} (h : indent.process 2 = .ok two) :
    ∃ one, indent.process 1 = .ok one ∧
      (one ++ one = two ↔ indent.style.filler = "" ∨
        2 * (indent.size.toNat % indent.style.span.toNat) < indent.style.span.toNat) := by
  have hspan : 0 < indent.style.span.toNat := by
    have hne : indent.style.span.toNat ≠ 0 := fun hzero =>
      indent.style.span_pos (UInt64.toNat_inj.mp hzero)
    omega
  rw [process] at h
  cases hcolumns : Size.mul indent.size 2 with
  | error cause =>
      rw [hcolumns] at h
      cases h
  | ok columns =>
      rw [hcolumns] at h
      rcases IndentStyle.fill_eq_ok_iff.mp h with ⟨hbytes, rfl⟩
      have hwide : columns.toNat = indent.size.toNat * 2 := Size.mul_eq_ok_iff.mp hcolumns
      have hone : indent.style.count indent.size = indent.size.toNat / indent.style.span.toNat := by
        rw [IndentStyle.count, UInt64.toNat_div]
      have htwo : indent.style.count columns
          = indent.size.toNat * 2 / indent.style.span.toNat := by
        rw [IndentStyle.count, UInt64.toNat_div, hwide]
      -- One level has at most as many fillers as two, so its text can be held.
      have hfewer : indent.style.count indent.size ≤ indent.style.count columns := by
        rw [hone, htwo]
        exact Nat.div_le_div_right (by omega)
      have hheld : indent.style.filler.utf8ByteSize * indent.style.count indent.size ≤ maxBytes :=
        Nat.le_trans (Nat.mul_le_mul_left _ hfewer) hbytes
      refine ⟨Text.repeated indent.style.filler (indent.style.count indent.size), ?_, ?_⟩
      · rw [process_one]
        exact IndentStyle.fill_eq_ok_iff.mpr ⟨hheld, rfl⟩
      · rw [Text.repeated_add, Text.repeated_eq_iff, hone, htwo, quotient_add_quotient_iff hspan]

end Print

open Print Code

namespace Code

section Blocks

variable {Statement : Type} {textOf : Statement → String} {lead : String} {statement : Statement}

/-- The lines of a block around a method that has a statement on a line of its own. -/
theorem lines_around_method (hlead : '\n' ∉ lead.toList) (hline : '\n' ∉ (textOf statement).toList)
    (hne : textOf statement ≠ "") {upper lower : List Statement} {method : Statement}
    {signature : String}
    (hmethod : textOf method = signature
      ++ blockText lead ("\n".intercalate ((upper ++ statement :: lower).map textOf)))
    (opening : String) (earlier later : List Statement) :
    Text.lines (opening ++ " \x7b\n"
        ++ Text.indented lead ("\n".intercalate ((earlier ++ method :: later).map textOf))
        ++ "\n\x7d")
      = Text.nestedLines lead (Text.lines (opening ++ " \x7b"))
        (earlier.flatMap fun statement => Text.lines (textOf statement))
        (Text.lines (signature ++ " \x7b"))
        ((upper.flatMap fun statement => Text.lines (textOf statement)) ++ textOf statement
          :: lower.flatMap fun statement => Text.lines (textOf statement))
        (later.flatMap fun statement => Text.lines (textOf statement)) := by
  have hbody := Text.joined_around_ne_empty hline hne (upper.map textOf) (lower.map textOf)
  have hnested := Text.lines_nested hlead hline hne opening signature (earlier.map textOf)
    (upper.map textOf) (lower.map textOf) (later.map textOf)
  simp only [List.flatMap_map] at hnested
  -- A body with something to show is never a pair of braces, so the blocks are nested.
  refine Eq.trans (congrArg Text.lines ?_) hnested
  simp only [hmethod, List.map_append, List.map_cons, blockText, if_neg hbody,
    String.append_assoc]

end Blocks

/-- With quiet middlewares around indentation, an outline shows the text of its draft. -/
theorem shows_of_settle {outline : Outline} (hblind : outline.Every Printer.Blind)
    {draft : Draft String} {config : Config} {lead : String}
    (hprint : (outline.print (.initial config [.indent, .trace])).map Prod.fst
      = (draft.settle config).map Except.ok)
    (hlead : config.indent.process 1 = .ok lead) {names : List String}
    {before after : List Middleware}
    (hquiet : ∀ middleware ∈ before ++ after, middleware.Quiet names) :
    outline.Shows (.initial config (before ++ .indent :: after)) (draft.value lead) := by
  rw [Outline.Shows, Outline.print_watched hblind hquiet, hprint, Draft.settle_of_ok hlead]
  rfl

end Code

namespace Php

/-- The lines of statements, written down. -/
def linesOf (lead : String) (statements : List Statement) : List String :=
  statements.flatMap fun statement => Text.lines (statementText lead statement)

theorem lines_fileText (lead : String) {statements : List Statement} (hne : statements ≠ []) :
    Text.lines (fileText lead statements) = linesOf lead statements := by
  rw [fileText, statementTexts_eq_map, Text.lines_joined (by simpa using hne), List.flatMap_map]
  rfl

/-- The lines of a class with a method that has a statement on a line of its own. -/
theorem lines_classDecl {lead : String} (hlead : '\n' ∉ lead.toList) {statement : Statement}
    (hline : '\n' ∉ (statementText lead statement).toList)
    (hne : statementText lead statement ≠ "") (name : String) (head : MethodHead)
    (earlier upper lower later : List Statement) :
    Text.lines (statementText lead (.classDecl name
        (earlier ++ .method head (upper ++ statement :: lower) :: later)))
      = Text.nestedLines lead (Text.lines ("class " ++ name ++ " \x7b"))
        (linesOf lead earlier) (Text.lines (signatureText head ++ " \x7b"))
        (linesOf lead upper ++ statementText lead statement :: linesOf lead lower)
        (linesOf lead later) := by
  have hmethod : statementText lead (.method head (upper ++ statement :: lower))
      = signatureText head ++ blockText lead
        ("\n".intercalate ((upper ++ statement :: lower).map (statementText lead))) := by
    rw [statementText, statementTexts_eq_map]
  rw [statementText, statementTexts_eq_map]
  exact lines_around_method hlead hline hne hmethod _ earlier later

/-- With quiet middlewares around indentation, a file shows its written text. -/
theorem shows_fileText {config : Config} {lead : String}
    (hlead : config.indent.process 1 = .ok lead) {names : List String}
    {before after : List Middleware}
    (hquiet : ∀ middleware ∈ before ++ after, middleware.Quiet names)
    (statements : List Statement) :
    (fileOutline statements).Shows (.initial config (before ++ .indent :: after))
      (fileText lead statements) := by
  have hblind : (fileOutline statements).Every Printer.Blind :=
    (every_construct (.file statements)).imp
      (Outline.Uses.blind fun hown => (Own.inline hown).blind)
  rw [← value_file]
  exact shows_of_settle hblind (print_eq_settle config statements) hlead hquiet

end Php

namespace TypeScript

/-- The lines of statements, written down. -/
def linesOf (lead : String) (statements : List Statement) : List String :=
  statements.flatMap fun statement => Text.lines (statementText lead statement)

theorem lines_fileText (lead : String) {statements : List Statement} (hne : statements ≠ []) :
    Text.lines (fileText lead statements) = linesOf lead statements := by
  rw [fileText, statementTexts_eq_map, Text.lines_joined (by simpa using hne), List.flatMap_map]
  rfl

/-- The lines of a class with a method that has a statement on a line of its own. -/
theorem lines_classDecl {lead : String} (hlead : '\n' ∉ lead.toList) {statement : Statement}
    (hline : '\n' ∉ (statementText lead statement).toList)
    (hne : statementText lead statement ≠ "") (exported : Bool) (name : String) (head : MethodHead)
    (earlier upper lower later : List Statement) :
    Text.lines (statementText lead (.classDecl exported name
        (earlier ++ .method head (upper ++ statement :: lower) :: later)))
      = Text.nestedLines lead
        (Text.lines ((if exported then "export " else "") ++ "class " ++ name ++ " \x7b"))
        (linesOf lead earlier) (Text.lines (headText head ++ " \x7b"))
        (linesOf lead upper ++ statementText lead statement :: linesOf lead lower)
        (linesOf lead later) := by
  have hmethod : statementText lead (.method head (upper ++ statement :: lower))
      = headText head ++ blockText lead
        ("\n".intercalate ((upper ++ statement :: lower).map (statementText lead))) := by
    rw [statementText, statementTexts_eq_map]
  rw [statementText, statementTexts_eq_map]
  exact lines_around_method hlead hline hne hmethod _ earlier later

/-- With quiet middlewares around indentation, a file shows its written text. -/
theorem shows_fileText {config : Config} {lead : String}
    (hlead : config.indent.process 1 = .ok lead) {names : List String}
    {before after : List Middleware}
    (hquiet : ∀ middleware ∈ before ++ after, middleware.Quiet names)
    (statements : List Statement) :
    (fileOutline statements).Shows (.initial config (before ++ .indent :: after))
      (fileText lead statements) := by
  have hblind : (fileOutline statements).Every Printer.Blind :=
    (every_construct (.file statements)).imp
      (Outline.Uses.blind fun hown => (Own.inline hown).blind)
  rw [← value_file]
  exact shows_of_settle hblind (print_eq_settle config statements) hlead hquiet

end TypeScript

/-- A file with a class with a method, printed with indentation and quiet middlewares
    around it. The line of a statement in the method has the lead of one level in front of
    it twice, and the other lines of the class have it once. Twice the lead of one level is
    the lead of two levels exactly if what one level drops does not fill half a span. -/
theorem bodies_led_twice {config : Config} (hfiller : '\n' ∉ config.indent.style.filler.toList)
    {two : String} (htwo : config.indent.process 2 = .ok two) {names : List String}
    {before after : List Middleware}
    (hquiet : ∀ middleware ∈ before ++ after, middleware.Quiet names) :
    ∃ one, config.indent.process 1 = .ok one ∧
      (one ++ one = two ↔ config.indent.style.filler = "" ∨
        2 * (config.indent.size.toNat % config.indent.style.span.toNat)
          < config.indent.style.span.toNat) ∧
      (∀ (above below earlier later upper lower : List Php.Statement) (name : String)
          (head : Php.MethodHead) (statement : Php.Statement),
        '\n' ∉ (Php.statementText one statement).toList → Php.statementText one statement ≠ "" →
        ∃ text,
          (Php.fileOutline (above ++ .classDecl name
            (earlier ++ .method head (upper ++ statement :: lower) :: later) :: below)).Shows
            (.initial config (before ++ .indent :: after)) text ∧
          Text.lines text
            = Php.linesOf one above
              ++ Text.nestedLines one (Text.lines ("class " ++ name ++ " \x7b"))
                (Php.linesOf one earlier) (Text.lines (Php.signatureText head ++ " \x7b"))
                (Php.linesOf one upper
                  ++ Php.statementText one statement :: Php.linesOf one lower)
                (Php.linesOf one later)
              ++ Php.linesOf one below) ∧
      (∀ (above below earlier later upper lower : List TypeScript.Statement) (exported : Bool)
          (name : String) (head : TypeScript.MethodHead) (statement : TypeScript.Statement),
        '\n' ∉ (TypeScript.statementText one statement).toList →
        TypeScript.statementText one statement ≠ "" →
        ∃ text,
          (TypeScript.fileOutline (above ++ .classDecl exported name
            (earlier ++ .method head (upper ++ statement :: lower) :: later) :: below)).Shows
            (.initial config (before ++ .indent :: after)) text ∧
          Text.lines text
            = TypeScript.linesOf one above
              ++ Text.nestedLines one
                (Text.lines ((if exported then "export " else "") ++ "class " ++ name ++ " \x7b"))
                (TypeScript.linesOf one earlier)
                (Text.lines (TypeScript.headText head ++ " \x7b"))
                (TypeScript.linesOf one upper
                  ++ TypeScript.statementText one statement :: TypeScript.linesOf one lower)
                (TypeScript.linesOf one later)
              ++ TypeScript.linesOf one below) := by
  rcases Indent.process_two htwo with ⟨one, hone, hdepth⟩
  have hlead : '\n' ∉ one.toList := fun hmem =>
    hfiller (Indent.mem_filler_of_process hone _ hmem)
  refine ⟨one, hone, hdepth, ?_, ?_⟩
  · intro above below earlier later upper lower name head statement hline hne
    refine ⟨_, Php.shows_fileText hone hquiet _, ?_⟩
    rw [Php.lines_fileText one (by simp), Php.linesOf, List.flatMap_append, List.flatMap_cons,
      Php.lines_classDecl hlead hline hne]
    simp only [Php.linesOf, List.append_assoc]
  · intro above below earlier later upper lower exported name head statement hline hne
    refine ⟨_, TypeScript.shows_fileText hone hquiet _, ?_⟩
    rw [TypeScript.lines_fileText one (by simp), TypeScript.linesOf, List.flatMap_append,
      List.flatMap_cons, TypeScript.lines_classDecl hlead hline hne]
    simp only [TypeScript.linesOf, List.append_assoc]

/-- A tab for every four of five columns. Each level drops a column, and two of them do not
    make a tab. -/
theorem bodies_led_twice_tabs :
    ∃ text,
      (Php.fileOutline [.openTag, .classDecl "A" [.member [.privateAccess] "x" ⟨"string"⟩,
          .method ⟨[.publicAccess], "f", ⟨"string"⟩, []⟩
            [.returns (.access ⟨⟨"$this", ⟨"A"⟩⟩, [⟨"x", ⟨"string"⟩⟩]⟩)]]]).Shows
        (.initial ⟨⟨5, .tab 4⟩⟩ [.trace, .indent]) text ∧
      Text.lines text
        = ["<?php", "class A \x7b", "\tprivate $x;", "\tpublic function f() \x7b",
          "\t\treturn $this->x;", "\t\x7d", "\x7d"] := by
  rcases @bodies_led_twice ⟨⟨5, .tab 4⟩⟩ (by decide) "\t\t" (by rfl) [] [.trace] []
    (List.forall_mem_singleton.mpr .trace) with ⟨one, hone, -, hphp, -⟩
  obtain rfl : "\t" = one := Except.ok.inj hone
  rcases hphp [.openTag] [] [.member [.privateAccess] "x" ⟨"string"⟩] [] [] [] "A"
    ⟨[.publicAccess], "f", ⟨"string"⟩, []⟩
    (.returns (.access ⟨⟨"$this", ⟨"A"⟩⟩, [⟨"x", ⟨"string"⟩⟩]⟩)) (by decide) (by decide)
    with ⟨text, hshows, hlines⟩
  exact ⟨text, hshows, hlines.trans (by decide)⟩

/-- A tab for every two of three columns. Two levels at once are three tabs, and the body of
    a method in a class has two. -/
theorem tabs_fall_short :
    (⟨3, .tab 2⟩ : Indent).process 2 = .ok "\t\t\t" ∧
      (∃ text,
        (Php.fileOutline
            [.classDecl "A" [.method ⟨[], "f", ⟨"mixed"⟩, []⟩ [.comment "x"]]]).Shows
          (.initial ⟨⟨3, .tab 2⟩⟩ [.indent]) text ∧
        Text.lines text = ["class A \x7b", "\tfunction f() \x7b", "\t\t// x", "\t\x7d", "\x7d"] ∧
        "\t\t\t// x" ∉ Text.lines text) ∧
      (∃ text,
        (TypeScript.fileOutline
            [.classDecl false "A" [.method ⟨[], "f", none, []⟩ [.comment "x"]]]).Shows
          (.initial ⟨⟨3, .tab 2⟩⟩ [.indent]) text ∧
        Text.lines text = ["class A \x7b", "\tf() \x7b", "\t\t// x", "\t\x7d", "\x7d"] ∧
        "\t\t\t// x" ∉ Text.lines text) := by
  have hone : (⟨⟨3, .tab 2⟩⟩ : Config).indent.process 1 = .ok "\t" := rfl
  have hquiet : ∀ middleware ∈ ([] ++ [] : List Middleware), middleware.Quiet [] :=
    List.forall_mem_nil _
  exact ⟨rfl, ⟨_, Php.shows_fileText hone hquiet _, by decide, by decide⟩,
    ⟨_, TypeScript.shows_fileText hone hquiet _, by decide, by decide⟩⟩

end ClassForge
