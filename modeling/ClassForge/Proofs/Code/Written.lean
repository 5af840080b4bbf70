import ClassForge.Code.Expression
import ClassForge.Proofs.Print.Draft

/-!
# Written Expressions

What an expression looks like when it is written down, by recursion on the
expression and with nothing else in sight: no printers, no frames, no
middlewares. The two grammars write the same expressions with other signs, so
there is one text for both of them, given the signs of a `Dialect`.

The text depends on the lead of one level, which is put in front of the elements
of a literal that is too long for one line. Whether a literal is too long is
decided by the texts of its elements, and those of an element that is itself too
long already have the lead in them. So it looks as if a wider lead could push a
literal over the limit. It cannot: `wraps` is decided without any lead, an
expression that does not wrap is written the same under each
(`expressionText_steady`), and one that does is longer than the limit under each
(`length_expressionText_of_wraps`), which forces whatever contains it to wrap as
well.

## Main definitions

* `Dialect`: The signs of a grammar.
* `Literal.Wraps`: When the elements of a literal are too long for one line.
* `Literal.inside`: What stands between the brackets of a literal.
* `Dialect.literal`: A literal whose lead may be too long to be held.
* `wordsText`, `setOff`: Words in front of a text, written down and put together.
* `blockText`, `withBody`: The same for what stands behind the signature of a method.
* `expressionText`, `elementText`: Expressions and elements, written down.
* `expressionWraps`, `elementWraps`: Whether some literal takes several lines.
* `expressionDraft`, `elementDraft`: Both as a draft.

## Theorems

* `expressionText_steady`: Without such a literal the lead does not matter.
* `length_expressionText_of_wraps`: With one the text is long under every lead.
* `wraps_elementTexts`: Whether a literal takes several lines does not depend on
  the lead.
* `settle_arrayDraft`: Laying out the elements of a literal settles its draft.
-/

namespace ClassForge

namespace Code

open Print

/-- The signs with which a grammar writes expressions. -/
structure Dialect where
  /-- What stands in front of the name of a variable. -/
  variableSign : String
  /-- What stands between the steps of an access. -/
  accessSign : String
  /-- What opens a literal, which may be a dictionary or not. -/
  opening : Bool → String
  /-- What closes a literal, which may be a dictionary or not. -/
  closing : Bool → String
  /-- What stands between a key and its value. -/
  keySign : String

namespace Literal

/-- How many characters the elements of a literal may have on one line. -/
def wrapWidth : Nat := 80

/-- How many characters the elements of a literal have. Brackets and separators do
    not count. -/
def width : List String → Nat
  | [] => 0
  | element :: elements => element.length + width elements

/-- Whether elements are too long for one line. -/
def Wraps (elements : List String) : Prop := wrapWidth < width elements

instance (elements : List String) : Decidable (Wraps elements) :=
  inferInstanceAs (Decidable (wrapWidth < width elements))

/-- What stands between the brackets of a literal: its elements on one line or,
    if they are too long, on lines of their own behind a lead. -/
def inside (lead : String) (elements : List String) : String :=
  if Wraps elements then "\n" ++ ",\n".intercalate (elements.map (lead ++ ·)) ++ "\n"
  else ", ".intercalate elements

end Literal

/-- A literal, laid out for a lead that may not be there. It is only missed if
    the elements are too long for one line. -/
def Dialect.literal (dialect : Dialect) (isDictionary : Bool) (lead : Except Overflow String)
    (elements : List String) : Except Overflow String :=
  if Literal.Wraps elements then lead.map fun lead =>
    dialect.opening isDictionary ++ Literal.inside lead elements ++ dialect.closing isDictionary
  else .ok (dialect.opening isDictionary ++ ", ".intercalate elements
    ++ dialect.closing isDictionary)

/-- Words with a space behind each of them. -/
def wordsText (words : List String) : String := String.join (words.map (· ++ " "))

/-- What stands behind the signature of a method. An empty body leaves no line
    between the braces. -/
def blockText (lead body : String) : String :=
  if body = "" then " \x7b\n\x7d" else " \x7b\n" ++ Text.indented lead body ++ "\n\x7d"

/-- A text behind joined words, set off from them if there are any. -/
def setOff (words rest : String) : String :=
  if words = "" then rest else words ++ " " ++ rest

/-- A signature with a body behind it. An empty body leaves no line between the
    braces. -/
def withBody (signature body : String) : String :=
  if body = "" then signature ++ " \x7b\n\x7d" else signature ++ " \x7b\n" ++ body ++ "\n\x7d"

/-- A callable, written down. -/
def callableText : Callable → String
  | .named name => name
  | .constructor className => "new " ++ className

/-- The key of an element, written down. Only a dictionary shows it. -/
def keyText (dialect : Dialect) (isDictionary : Bool) (key : Option String) : String :=
  match if isDictionary then key else none with
  | some key => "\"" ++ key ++ "\"" ++ dialect.keySign
  | none => ""

section Texts

variable (dialect : Dialect) (lead : String)

mutual

/-- An expression, written down. -/
def expressionText : Expression → String
  | .raw text _ => text
  | .access path => path.text dialect.accessSign
  | .variable name => dialect.variableSign ++ name
  | .invoke callable _ parameters =>
    callableText callable ++ "(" ++ ", ".intercalate (expressionTexts parameters) ++ ")"
  | .compare operator left right =>
    expressionText left ++ " " ++ operator.sign ++ " " ++ expressionText right
  | .conditional condition whenTrue whenFalse =>
    expressionText condition ++ " ? " ++ expressionText whenTrue ++ " : "
      ++ expressionText whenFalse
  | .array isDictionary elements =>
    dialect.opening isDictionary ++ Literal.inside lead (elementTexts isDictionary elements)
      ++ dialect.closing isDictionary

/-- Several expressions, written down. -/
def expressionTexts : List Expression → List String
  | [] => []
  | expression :: expressions => expressionText expression :: expressionTexts expressions

/-- An element of a literal, written down. -/
def elementText (isDictionary : Bool) : Element → String
  | .entry key value => keyText dialect isDictionary key ++ expressionText value

/-- Several elements of a literal, written down. -/
def elementTexts (isDictionary : Bool) : List Element → List String
  | [] => []
  | element :: elements =>
    elementText isDictionary element :: elementTexts isDictionary elements

end

end Texts

section Wrapping

variable (dialect : Dialect)

mutual

/-- Whether some literal of an expression takes several lines. -/
def expressionWraps : Expression → Bool
  | .raw .. | .access _ | .variable _ => false
  | .invoke _ _ parameters => expressionsWrap parameters
  | .compare _ left right => expressionWraps left || expressionWraps right
  | .conditional condition whenTrue whenFalse =>
    expressionWraps condition || expressionWraps whenTrue || expressionWraps whenFalse
  | .array isDictionary elements =>
    elementsWrap elements || decide (Literal.Wraps (elementTexts dialect "" isDictionary elements))

/-- Whether some literal of several expressions takes several lines. -/
def expressionsWrap : List Expression → Bool
  | [] => false
  | expression :: expressions => expressionWraps expression || expressionsWrap expressions

/-- Whether some literal inside an element takes several lines. -/
def elementWraps : Element → Bool
  | .entry _ value => expressionWraps value

/-- Whether some literal inside of several elements takes several lines. -/
def elementsWrap : List Element → Bool
  | [] => false
  | element :: elements => elementWraps element || elementsWrap elements

end

end Wrapping

/-- Words that are joined first and set off from the rest if there are any. -/
theorem setOff_intercalate (words : List String) (hwords : ∀ word ∈ words, word ≠ "")
    (rest : String) : setOff (" ".intercalate words) rest = wordsText words ++ rest := by
  have hjoin : ∀ word words, " ".intercalate (word :: words) ++ " "
      = wordsText (word :: words) := by
    -- A space between two words is the space behind the first.
    intro word words
    induction words generalizing word with
    | nil =>
        rw [String.intercalate_singleton, wordsText, List.map_cons, List.map_nil,
          String.join_cons, String.join_nil, String.append_empty]
    | cons next words ih =>
        rw [String.intercalate_cons_cons, String.append_assoc, ih next]
        simp only [wordsText, List.map_cons, String.join_cons]
  unfold setOff
  cases words with
  | nil => rw [String.intercalate_nil, if_pos rfl, wordsText, List.map_nil, String.join_nil,
      String.empty_append]
  | cons word words =>
      have hword := hwords word List.mem_cons_self
      -- Words are not empty, so being joined to nothing means that there are none.
      have hne : " ".intercalate (word :: words) ≠ "" := by
        intro hempty
        cases words with
        | nil => exact hword (by rwa [String.intercalate_singleton] at hempty)
        | cons next words =>
            rw [String.intercalate_cons_cons, String.append_assoc,
              String.append_eq_empty_iff] at hempty
            exact hword hempty.1
      rw [if_neg hne, hjoin]

/-- Whether a body is empty can as well be asked once it is indented. -/
theorem withBody_indented (lead body signature : String) :
    withBody signature (Text.indented lead body) = signature ++ blockText lead body := by
  unfold withBody
  by_cases hbody : body = ""
  · rw [if_pos ((Text.indented_eq_empty_iff lead body).mpr hbody), blockText, if_pos hbody]
  · rw [if_neg fun hempty => hbody ((Text.indented_eq_empty_iff lead body).mp hempty), blockText,
      if_neg hbody]
    simp only [String.append_assoc]

section Steadiness

variable {dialect : Dialect}

/-- Elements on one line have no lead among them. -/
theorem Literal.inside_of_not_wraps {elements : List String} (h : ¬ Wraps elements)
    (lead : String) : inside lead elements = ", ".intercalate elements := by
  rw [inside, if_neg h]

mutual

/-- An expression none of whose literals takes several lines is written the same
    under every lead. -/
theorem expressionText_steady : (expression : Expression) →
    expressionWraps dialect expression = false → ∀ lead,
    expressionText dialect lead expression = expressionText dialect "" expression
  | .raw .., _, _ | .access _, _, _ | .variable _, _, _ => by rw [expressionText, expressionText]
  | .invoke _ _ parameters, hwraps, lead => by
    rw [expressionWraps] at hwraps
    rw [expressionText, expressionText, expressionTexts_steady parameters hwraps lead]
  | .compare _ left right, hwraps, lead => by
    rw [expressionWraps, Bool.or_eq_false_iff] at hwraps
    rw [expressionText, expressionText, expressionText_steady left hwraps.1 lead,
      expressionText_steady right hwraps.2 lead]
  | .conditional condition whenTrue whenFalse, hwraps, lead => by
    rw [expressionWraps, Bool.or_eq_false_iff, Bool.or_eq_false_iff] at hwraps
    rw [expressionText, expressionText, expressionText_steady condition hwraps.1.1 lead,
      expressionText_steady whenTrue hwraps.1.2 lead,
      expressionText_steady whenFalse hwraps.2 lead]
  | .array isDictionary elements, hwraps, lead => by
    rw [expressionWraps, Bool.or_eq_false_iff, decide_eq_false_iff_not] at hwraps
    -- The elements are steady, and too short for the lead to be used at all.
    rw [expressionText, expressionText, elementTexts_steady isDictionary elements hwraps.1 lead,
      Literal.inside_of_not_wraps hwraps.2, Literal.inside_of_not_wraps hwraps.2]

theorem expressionTexts_steady : (expressions : List Expression) →
    expressionsWrap dialect expressions = false → ∀ lead,
    expressionTexts dialect lead expressions = expressionTexts dialect "" expressions
  | [], _, _ => by rw [expressionTexts, expressionTexts]
  | expression :: expressions, hwraps, lead => by
    rw [expressionsWrap, Bool.or_eq_false_iff] at hwraps
    rw [expressionTexts, expressionTexts, expressionText_steady expression hwraps.1 lead,
      expressionTexts_steady expressions hwraps.2 lead]

theorem elementText_steady (isDictionary : Bool) : (element : Element) →
    elementWraps dialect element = false → ∀ lead,
    elementText dialect lead isDictionary element = elementText dialect "" isDictionary element
  | .entry _ value, hwraps, lead => by
    rw [elementWraps] at hwraps
    rw [elementText, elementText, expressionText_steady value hwraps lead]

theorem elementTexts_steady (isDictionary : Bool) : (elements : List Element) →
    elementsWrap dialect elements = false → ∀ lead,
    elementTexts dialect lead isDictionary elements
      = elementTexts dialect "" isDictionary elements
  | [], _, _ => by rw [elementTexts, elementTexts]
  | element :: elements, hwraps, lead => by
    rw [elementsWrap, Bool.or_eq_false_iff] at hwraps
    rw [elementTexts, elementTexts, elementText_steady isDictionary element hwraps.1 lead,
      elementTexts_steady isDictionary elements hwraps.2 lead]

end

end Steadiness

section Length

variable {dialect : Dialect}

/-- Separators only make a text longer. -/
theorem Literal.width_le_length_intercalate (separator : String) (texts : List String) :
    width texts ≤ (separator.intercalate texts).length := by
  induction texts with
  | nil => exact Nat.zero_le _
  | cons text texts ih =>
      cases texts with
      | nil => exact Nat.le_of_eq (by rw [String.intercalate_singleton, width, width, Nat.add_zero])
      | cons next texts =>
          rw [String.intercalate_cons_cons, String.length_append, String.length_append, width]
          omega

/-- Leads only make elements longer. -/
theorem Literal.width_le_width_map (lead : String) (texts : List String) :
    width texts ≤ width (texts.map (lead ++ ·)) := by
  induction texts with
  | nil => exact Nat.le_refl _
  | cons text texts ih =>
      rw [List.map_cons, width, width, String.length_append]
      omega

/-- What stands between the brackets is at least as long as the elements. -/
theorem Literal.width_le_length_inside (lead : String) (elements : List String) :
    width elements ≤ (inside lead elements).length := by
  unfold inside
  split
  · have hleads := width_le_width_map lead elements
    have hjoined := width_le_length_intercalate ",\n" (elements.map (lead ++ ·))
    rw [String.length_append, String.length_append]
    omega
  · exact width_le_length_intercalate _ _

mutual

/-- An expression with a literal that takes several lines is itself too long for
    one line, under every lead. -/
theorem length_expressionText_of_wraps (lead : String) : (expression : Expression) →
    expressionWraps dialect expression = true →
    Literal.wrapWidth < (expressionText dialect lead expression).length
  | .raw .., hwraps | .access _, hwraps | .variable _, hwraps => by
    simp only [expressionWraps, Bool.false_eq_true] at hwraps
  | .invoke _ _ parameters, hwraps => by
    rw [expressionWraps] at hwraps
    have hlong := width_expressionTexts_of_wraps lead parameters hwraps
    have hjoined := Literal.width_le_length_intercalate ", "
      (expressionTexts dialect lead parameters)
    rw [expressionText]
    simp only [String.length_append]
    omega
  | .compare _ left right, hwraps => by
    rw [expressionWraps, Bool.or_eq_true] at hwraps
    rw [expressionText]
    simp only [String.length_append]
    rcases hwraps with hleft | hright
    · have := length_expressionText_of_wraps lead left hleft
      omega
    · have := length_expressionText_of_wraps lead right hright
      omega
  | .conditional condition whenTrue whenFalse, hwraps => by
    rw [expressionWraps, Bool.or_eq_true, Bool.or_eq_true] at hwraps
    rw [expressionText]
    simp only [String.length_append]
    rcases hwraps with (hcondition | htrue) | hfalse
    · have := length_expressionText_of_wraps lead condition hcondition
      omega
    · have := length_expressionText_of_wraps lead whenTrue htrue
      omega
    · have := length_expressionText_of_wraps lead whenFalse hfalse
      omega
  | .array isDictionary elements, hwraps => by
    rw [expressionWraps, Bool.or_eq_true, decide_eq_true_eq] at hwraps
    have hinside := Literal.width_le_length_inside lead
      (elementTexts dialect lead isDictionary elements)
    -- Either an element is too long already, or no element depends on the lead
    -- and together they are as long as they are without one.
    have hlong : Literal.wrapWidth
        < Literal.width (elementTexts dialect lead isDictionary elements) := by
      by_cases helements : elementsWrap dialect elements = true
      · exact width_elementTexts_of_wraps lead isDictionary elements helements
      · rw [elementTexts_steady isDictionary elements (Bool.eq_false_iff.mpr helements) lead]
        exact hwraps.resolve_left helements
    rw [expressionText]
    simp only [String.length_append]
    omega

theorem width_expressionTexts_of_wraps (lead : String) : (expressions : List Expression) →
    expressionsWrap dialect expressions = true →
    Literal.wrapWidth < Literal.width (expressionTexts dialect lead expressions)
  | [], hwraps => by simp only [expressionsWrap, Bool.false_eq_true] at hwraps
  | expression :: expressions, hwraps => by
    rw [expressionsWrap, Bool.or_eq_true] at hwraps
    rw [expressionTexts, Literal.width]
    rcases hwraps with hfirst | hrest
    · have := length_expressionText_of_wraps lead expression hfirst
      omega
    · have := width_expressionTexts_of_wraps lead expressions hrest
      omega

theorem length_elementText_of_wraps (lead : String) (isDictionary : Bool) :
    (element : Element) → elementWraps dialect element = true →
    Literal.wrapWidth < (elementText dialect lead isDictionary element).length
  | .entry _ value, hwraps => by
    rw [elementWraps] at hwraps
    have := length_expressionText_of_wraps lead value hwraps
    rw [elementText, String.length_append]
    omega

theorem width_elementTexts_of_wraps (lead : String) (isDictionary : Bool) :
    (elements : List Element) → elementsWrap dialect elements = true →
    Literal.wrapWidth < Literal.width (elementTexts dialect lead isDictionary elements)
  | [], hwraps => by simp only [elementsWrap, Bool.false_eq_true] at hwraps
  | element :: elements, hwraps => by
    rw [elementsWrap, Bool.or_eq_true] at hwraps
    rw [elementTexts, Literal.width]
    rcases hwraps with hfirst | hrest
    · have := length_elementText_of_wraps lead isDictionary element hfirst
      omega
    · have := width_elementTexts_of_wraps lead isDictionary elements hrest
      omega

end

/-- Whether a literal takes several lines does not depend on the lead, though
    the texts of its elements may. -/
theorem wraps_elementTexts (lead : String) (isDictionary : Bool) (elements : List Element) :
    Literal.Wraps (elementTexts dialect lead isDictionary elements)
      ↔ expressionWraps dialect (.array isDictionary elements) = true := by
  rw [expressionWraps, Bool.or_eq_true, decide_eq_true_eq]
  -- An element on several lines is long enough for the whole literal; without
  -- one the lead does not come into it.
  by_cases helements : elementsWrap dialect elements = true
  · exact ⟨fun _ => Or.inl helements,
      fun _ => width_elementTexts_of_wraps lead isDictionary elements helements⟩
  · rw [elementTexts_steady isDictionary elements (Bool.eq_false_iff.mpr helements) lead]
    exact ⟨Or.inr, fun h => h.resolve_left helements⟩

end Length

section Drafts

variable {dialect : Dialect}

/-- The draft of an expression. -/
def expressionDraft (dialect : Dialect) (expression : Expression) : Draft String :=
  ⟨expressionWraps dialect expression, fun lead => expressionText dialect lead expression,
    expressionText_steady expression⟩

/-- The draft of an element. -/
def elementDraft (dialect : Dialect) (isDictionary : Bool) (element : Element) : Draft String :=
  ⟨elementWraps dialect element, fun lead => elementText dialect lead isDictionary element,
    elementText_steady isDictionary element⟩

/-- Several expressions ask for the lead if some literal among them takes
    several lines. -/
theorem asks_all_expressionDraft (expressions : List Expression) :
    (Draft.all (expressions.map (expressionDraft dialect))).asks
      = expressionsWrap dialect expressions := by
  induction expressions with
  | nil => simp only [List.map_nil, Draft.all, Draft.fixed, expressionsWrap]
  | cons expression expressions ih =>
      simp only [List.map_cons, Draft.asks_all_cons, ih, expressionsWrap, expressionDraft]

theorem value_all_expressionDraft (expressions : List Expression) (lead : String) :
    (Draft.all (expressions.map (expressionDraft dialect))).value lead
      = expressionTexts dialect lead expressions := by
  induction expressions with
  | nil => simp only [List.map_nil, Draft.all, Draft.fixed, expressionTexts]
  | cons expression expressions ih =>
      simp only [List.map_cons, Draft.value_all_cons, ih, expressionTexts, expressionDraft]

theorem asks_all_elementDraft (isDictionary : Bool) (elements : List Element) :
    (Draft.all (elements.map (elementDraft dialect isDictionary))).asks
      = elementsWrap dialect elements := by
  induction elements with
  | nil => simp only [List.map_nil, Draft.all, Draft.fixed, elementsWrap]
  | cons element elements ih =>
      simp only [List.map_cons, Draft.asks_all_cons, ih, elementsWrap, elementDraft]

theorem value_all_elementDraft (isDictionary : Bool) (elements : List Element) (lead : String) :
    (Draft.all (elements.map (elementDraft dialect isDictionary))).value lead
      = elementTexts dialect lead isDictionary elements := by
  induction elements with
  | nil => simp only [List.map_nil, Draft.all, Draft.fixed, elementTexts]
  | cons element elements ih =>
      simp only [List.map_cons, Draft.value_all_cons, ih, elementTexts, elementDraft]

theorem expressionDraft_raw (text : String) (type : TypeName) :
    expressionDraft dialect (.raw text type) = .fixed text :=
  Draft.ext (by simp only [expressionDraft, expressionWraps, Draft.fixed])
    (by simp only [expressionDraft, expressionText, Draft.fixed])

theorem expressionDraft_access (path : AccessPath) :
    expressionDraft dialect (.access path) = .fixed (path.text dialect.accessSign) :=
  Draft.ext (by simp only [expressionDraft, expressionWraps, Draft.fixed])
    (by simp only [expressionDraft, expressionText, Draft.fixed])

theorem expressionDraft_variable (name : String) :
    expressionDraft dialect (.variable name) = .fixed (dialect.variableSign ++ name) :=
  Draft.ext (by simp only [expressionDraft, expressionWraps, Draft.fixed])
    (by simp only [expressionDraft, expressionText, Draft.fixed])

theorem expressionDraft_invoke (callable : Callable) (type : TypeName)
    (parameters : List Expression) :
    expressionDraft dialect (.invoke callable type parameters)
      = (Draft.all [.fixed (callableText callable),
        (Draft.all (parameters.map (expressionDraft dialect))).map ", ".intercalate]).map
        (Parts.two fun callable parameters => callable ++ "(" ++ parameters ++ ")") := by
  refine Draft.ext ?_ (funext fun lead => ?_)
  · simp only [Draft.asks_map, asks_all_expressionDraft, Draft.fixed,
      Draft.all, expressionDraft, expressionWraps, Bool.false_or, Bool.or_false]
  · simp only [Draft.value_map, value_all_expressionDraft, Draft.fixed,
      Draft.all, expressionDraft, expressionText, Parts.two]

theorem expressionDraft_compare (operator : Comparison) (left right : Expression) :
    expressionDraft dialect (.compare operator left right)
      = (Draft.all [expressionDraft dialect left, .fixed operator.sign,
        expressionDraft dialect right]).map " ".intercalate := by
  refine Draft.ext ?_ (funext fun lead => ?_)
  · simp only [expressionDraft, expressionWraps, Draft.asks_map, Draft.all, Draft.fixed,
      Bool.false_or, Bool.or_false]
  · simp only [expressionDraft, expressionText, Draft.value_map, Draft.all, Draft.fixed,
      String.intercalate_cons_cons, String.intercalate_singleton, String.append_assoc]

theorem expressionDraft_conditional (condition whenTrue whenFalse : Expression) :
    expressionDraft dialect (.conditional condition whenTrue whenFalse)
      = (Draft.all [expressionDraft dialect condition, expressionDraft dialect whenTrue,
        expressionDraft dialect whenFalse]).map
        (Parts.three fun condition whenTrue whenFalse =>
          condition ++ " ? " ++ whenTrue ++ " : " ++ whenFalse) := by
  refine Draft.ext ?_ (funext fun lead => ?_)
  · simp only [expressionDraft, expressionWraps, Draft.asks_map, Draft.all, Draft.fixed,
      Bool.or_assoc, Bool.or_false]
  · simp only [expressionDraft, expressionText, Draft.value_map, Draft.all, Draft.fixed,
      Parts.three]

theorem elementDraft_entry (isDictionary : Bool) (key : Option String) (value : Expression) :
    elementDraft dialect isDictionary (.entry key value)
      = (Draft.all [expressionDraft dialect value]).map
        (Parts.one fun value => keyText dialect isDictionary key ++ value) := by
  refine Draft.ext ?_ (funext fun lead => ?_)
  · simp only [elementDraft, elementWraps, expressionDraft, Draft.asks_map, Draft.all,
      Draft.fixed, Bool.or_false]
  · simp only [elementDraft, elementText, expressionDraft, Draft.value_map, Draft.all,
      Draft.fixed, Parts.one]

/-- Laying out the elements of a literal, and computing the lead only if they
    are too long for one line, settles the draft of the literal. -/
theorem settle_arrayDraft {config : Config} {isDictionary : Bool}
    {lay : List String → Except Overflow String}
    (hlay : ∀ elements, lay elements
      = dialect.literal isDictionary (config.indent.process 1) elements)
    (elements : List Element) :
    (expressionDraft dialect (.array isDictionary elements)).settle config
      = ((Draft.all (elements.map (elementDraft dialect isDictionary))).settle config).bind
        lay := by
  have hasks : (expressionDraft dialect (.array isDictionary elements)).asks
      = (elementsWrap dialect elements
        || decide (Literal.Wraps (elementTexts dialect "" isDictionary elements))) := by
    simp only [expressionDraft, expressionWraps]
  have hvalue : ∀ lead, (expressionDraft dialect (.array isDictionary elements)).value lead
      = dialect.opening isDictionary
        ++ Literal.inside lead (elementTexts dialect lead isDictionary elements)
        ++ dialect.closing isDictionary := by
    intro lead
    simp only [expressionDraft, expressionText]
  cases hlead : config.indent.process 1 with
  | ok lead =>
      rw [Draft.settle_of_ok hlead, Draft.settle_of_ok hlead, value_all_elementDraft,
        Except.bind, hlay, hlead, hvalue, Dialect.literal]
      -- The lead is at hand, so only the layout is decided.
      by_cases hwraps : Literal.Wraps (elementTexts dialect lead isDictionary elements)
      · rw [if_pos hwraps]
        rfl
      · rw [if_neg hwraps, Literal.inside_of_not_wraps hwraps]
  | error cause =>
      rw [Draft.settle_of_error hlead, Draft.settle_of_error hlead, asks_all_elementDraft,
        value_all_elementDraft, hasks, hvalue]
      by_cases helements : elementsWrap dialect elements = true
      · rw [if_pos helements, helements, Bool.true_or]
        rfl
      · -- No element asks for the lead, so it is up to the literal itself.
        rw [if_neg helements, Except.bind, hlay, hlead, Dialect.literal,
          Bool.eq_false_iff.mpr helements, Bool.false_or]
        by_cases hwraps : Literal.Wraps (elementTexts dialect "" isDictionary elements)
        · rw [if_pos hwraps, if_pos (decide_eq_true hwraps)]
          rfl
        · rw [if_neg hwraps, if_neg (by rwa [decide_eq_true_eq]),
            Literal.inside_of_not_wraps hwraps]

end Drafts

end Code

end ClassForge
