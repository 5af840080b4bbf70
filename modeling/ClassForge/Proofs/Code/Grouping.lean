import ClassForge.Proofs.Text.Boundaries
import ClassForge.Proofs.Code.Onlookers

/-!
# Grouping of Operators

Comparisons and choices are written without parentheses, so their text does not say how
they are grouped. A comparison of `a == b` with `c` and one of `a` with `b == c` are both
`a == b == c`, and a choice whose condition is a comparison can be taken for a comparison
with a choice on its right. The text does not say either which type an invocation has.

Nothing else is lost. An expression is a chain of operands, with an operator or the first
branch of a choice between one operand and the next. Grouping the chain to the right gives
the same text again, and among expressions that are grouped to the right the text tells
one from another. So two expressions have the same text exactly if grouping them to the
right makes them the same.

Here an expression consists of variables, invocations by name, comparisons and choices,
and names are made of letters. To read it from the left it has to be known where an
operand ends, and that depends on what follows: a name ends where the letters do, and a
chain at a bracket, at a comma or at the colon of a choice around it.

## Main definitions

* `Link`: What can follow an operand.
* `Expression.straighten`: An expression grouped to the right, without types.
* `Plain`: The expressions that are looked at.
* `Straight`: Those of them that are grouped to the right.
* `TellsOperand`, `Tells`: Expressions whose text tells them from others.

## Theorems

* `expressionText_straightenOnto`: Grouping to the right does not change the text.
* `Plain.straight_straightenOnto`: Straightening groups to the right.
* `Straight.tells`: The text tells expressions that are grouped to the right.
* `same_text_iff_same_chain`: The same text is the same chain.
* `groupings_clash`: Other expressions with the same text.
-/

namespace ClassForge

namespace Code

/-- What can follow an operand: an operator with its right side, or both branches of a
    choice. -/
inductive Link where
  | compare (operator : Comparison) (right : Expression)
  | choose (whenTrue whenFalse : Expression)

namespace Expression

/-- An expression with what follows it. -/
def attach (first : Expression) : Option Link → Expression
  | none => first
  | some (.compare operator right) => .compare operator first right
  | some (.choose whenTrue whenFalse) => .conditional first whenTrue whenFalse

mutual

/-- An expression grouped to the right, in front of what follows it. -/
def straightenOnto : Expression → Option Link → Expression
  | .compare operator left right, next =>
    straightenOnto left (some (.compare operator (straightenOnto right next)))
  | .conditional condition whenTrue whenFalse, next =>
    straightenOnto condition
      (some (.choose (straightenOnto whenTrue none) (straightenOnto whenFalse next)))
  | .invoke callable _ parameters, next =>
    attach (.invoke callable .any (straightenAll parameters)) next
  | other, next => attach other next

/-- Several expressions, each grouped to the right. -/
def straightenAll : List Expression → List Expression
  | [] => []
  | expression :: expressions => straightenOnto expression none :: straightenAll expressions

end

/-- An expression grouped to the right, where no invocation has a type. -/
def straighten (expression : Expression) : Expression := straightenOnto expression none

/-- Whether an expression is an operand, which is neither a comparison nor a choice. -/
def IsOperand : Expression → Prop
  | .compare .. | .conditional .. => False
  | _ => True

end Expression

section Texts

variable (dialect : Dialect) (lead : String)

/-- What follows an operand, written down. -/
def linkText : Option Link → String
  | none => ""
  | some (.compare operator right) =>
    " " ++ operator.sign ++ " " ++ expressionText dialect lead right
  | some (.choose whenTrue whenFalse) =>
    " ? " ++ expressionText dialect lead whenTrue ++ " : " ++ expressionText dialect lead whenFalse

theorem expressionText_attach (first : Expression) (next : Option Link) :
    expressionText dialect lead (first.attach next)
      = expressionText dialect lead first ++ linkText dialect lead next := by
  cases next with
  | none => rw [Expression.attach, linkText, String.append_empty]
  | some link =>
      cases link <;> simp only [Expression.attach, expressionText, linkText, String.append_assoc]

mutual

/-- Grouping to the right does not change the text, and neither does forgetting types. -/
theorem expressionText_straightenOnto : (expression : Expression) → (next : Option Link) →
    expressionText dialect lead (expression.straightenOnto next)
      = expressionText dialect lead expression ++ linkText dialect lead next
  | .compare _ left right, next => by
    rw [Expression.straightenOnto, expressionText_straightenOnto left, linkText,
      expressionText_straightenOnto right, expressionText]
    simp only [String.append_assoc]
  | .conditional condition whenTrue whenFalse, next => by
    rw [Expression.straightenOnto, expressionText_straightenOnto condition, linkText,
      expressionText_straightenOnto whenTrue, expressionText_straightenOnto whenFalse, linkText,
      expressionText]
    simp only [String.append_assoc, String.append_empty]
  | .invoke _ _ parameters, next => by
    rw [Expression.straightenOnto, expressionText_attach, expressionText, expressionText,
      expressionTexts_straightenAll parameters]
  | .raw .., next | .access _, next | .variable _, next | .array .., next =>
    expressionText_attach dialect lead _ next

theorem expressionTexts_straightenAll : (expressions : List Expression) →
    expressionTexts dialect lead (Expression.straightenAll expressions)
      = expressionTexts dialect lead expressions
  | [] => by rw [Expression.straightenAll]
  | expression :: expressions => by
    rw [Expression.straightenAll, expressionTexts, expressionTexts,
      expressionText_straightenOnto expression, expressionTexts_straightenAll expressions,
      linkText, String.append_empty]

end

end Texts

/-- A name of letters. -/
def Lettered (name : String) : Prop := ∀ c ∈ name.toList, c.isAlpha = true

instance (name : String) : Decidable (Lettered name) := List.decidableBAll _ name.toList

/-- Expressions of variables, invocations by name, comparisons and choices, with names of
    letters. A variable has to show, so its name is not empty unless it has a sign. -/
inductive Plain (dialect : Dialect) : Expression → Prop where
  | leaf {name : String} (hname : Lettered name) (hshows : dialect.variableSign ++ name ≠ "") :
      Plain dialect (.variable name)
  | invoke {name : String} (hname : Lettered name) (type : TypeName)
      {parameters : List Expression}
      (hparameters : ∀ parameter ∈ parameters, Plain dialect parameter) :
      Plain dialect (.invoke (.named name) type parameters)
  | compare (operator : Comparison) {left right : Expression} (hleft : Plain dialect left)
      (hright : Plain dialect right) : Plain dialect (.compare operator left right)
  | conditional {condition whenTrue whenFalse : Expression} (hcondition : Plain dialect condition)
      (htrue : Plain dialect whenTrue) (hfalse : Plain dialect whenFalse) :
      Plain dialect (.conditional condition whenTrue whenFalse)

/-- Plain expressions that are grouped to the right and whose invocations have no type. -/
inductive Straight (dialect : Dialect) : Expression → Prop where
  | leaf {name : String} (hname : Lettered name) (hshows : dialect.variableSign ++ name ≠ "") :
      Straight dialect (.variable name)
  | invoke {name : String} (hname : Lettered name) {parameters : List Expression}
      (hparameters : ∀ parameter ∈ parameters, Straight dialect parameter) :
      Straight dialect (.invoke (.named name) .any parameters)
  | compare (operator : Comparison) {left right : Expression} (hoperand : left.IsOperand)
      (hleft : Straight dialect left) (hright : Straight dialect right) :
      Straight dialect (.compare operator left right)
  | conditional {condition whenTrue whenFalse : Expression} (hoperand : condition.IsOperand)
      (hcondition : Straight dialect condition) (htrue : Straight dialect whenTrue)
      (hfalse : Straight dialect whenFalse) :
      Straight dialect (.conditional condition whenTrue whenFalse)

/-- A link to expressions that are grouped to the right. -/
inductive StraightLink (dialect : Dialect) : Option Link → Prop where
  | none : StraightLink dialect none
  | compare (operator : Comparison) {right : Expression} (hright : Straight dialect right) :
      StraightLink dialect (some (.compare operator right))
  | choose {whenTrue whenFalse : Expression} (htrue : Straight dialect whenTrue)
      (hfalse : Straight dialect whenFalse) :
      StraightLink dialect (some (.choose whenTrue whenFalse))

section Straightening

variable {dialect : Dialect}

namespace Straight

theorem attach {first : Expression} {next : Option Link} (hoperand : first.IsOperand)
    (hfirst : Straight dialect first) (hnext : StraightLink dialect next) :
    Straight dialect (first.attach next) := by
  cases hnext with
  | none => exact hfirst
  | compare operator hright => exact .compare operator hoperand hfirst hright
  | choose htrue hfalse => exact .conditional hoperand hfirst htrue hfalse

/-- What is grouped to the right is an operand with a link. -/
theorem split {expression : Expression} (h : Straight dialect expression) :
    ∃ first next, expression = first.attach next ∧ first.IsOperand ∧ Straight dialect first ∧
      StraightLink dialect next := by
  cases h with
  | leaf hname hshows => exact ⟨_, none, rfl, trivial, .leaf hname hshows, .none⟩
  | invoke hname hparameters => exact ⟨_, none, rfl, trivial, .invoke hname hparameters, .none⟩
  | compare operator hoperand hleft hright =>
      exact ⟨_, some (.compare operator _), rfl, hoperand, hleft, .compare operator hright⟩
  | conditional hoperand hcondition htrue hfalse =>
      exact ⟨_, some (.choose _ _), rfl, hoperand, hcondition, .choose htrue hfalse⟩

end Straight

namespace Expression

theorem straightenAll_eq_map (expressions : List Expression) :
    straightenAll expressions = expressions.map straighten := by
  induction expressions with
  | nil => rw [straightenAll, List.map_nil]
  | cons expression expressions ih => rw [straightenAll, ih, List.map_cons, straighten]

end Expression

/-- Straightening a plain expression groups it to the right. -/
theorem Plain.straight_straightenOnto {expression : Expression} (h : Plain dialect expression)
    {next : Option Link} (hnext : StraightLink dialect next) :
    Straight dialect (expression.straightenOnto next) := by
  induction h generalizing next with
  | leaf hname hshows => exact .attach trivial (.leaf hname hshows) hnext
  | invoke hname type _ ih =>
      rw [Expression.straightenOnto, Expression.straightenAll_eq_map]
      refine .attach trivial (.invoke hname ?_) hnext
      rw [List.forall_mem_map]
      exact fun parameter hmem => ih parameter hmem .none
  | compare operator _ _ ihleft ihright =>
      rw [Expression.straightenOnto]
      exact ihleft (.compare operator (ihright hnext))
  | conditional _ _ _ ihcondition ihtrue ihfalse =>
      rw [Expression.straightenOnto]
      exact ihcondition (.choose (ihtrue .none) (ihfalse hnext))

end Straightening

section Boundaries

/-- A text that goes on neither with a name nor with parameters. -/
def Apart (rest : List Char) : Prop := ∀ c ∈ rest.head?, c.isAlpha = false ∧ c ≠ '('

/-- What can follow an expression that is not followed by a link: nothing, the end of
    parameters, another parameter, or the second branch of a choice. -/
inductive Closes : List Char → Prop where
  | nothing : Closes []
  | bracket (rest : List Char) : Closes (')' :: rest)
  | comma (rest : List Char) : Closes (',' :: rest)
  | colon (rest : List Char) : Closes (' ' :: ':' :: rest)

theorem Closes.apart {rest : List Char} (h : Closes rest) : Apart rest := by
  cases h <;> simp [Apart]

theorem Comparison.sign_inj {first second : Comparison} (h : first.sign = second.sign) :
    first = second := by
  revert h
  cases first <;> cases second <;> decide

/-- The sign of an operator is a word, and neither of those that a choice has. -/
theorem Comparison.sign_spec (operator : Comparison) :
    operator.sign.toList.all (· != ' ') = true ∧ operator.sign ≠ "?" ∧
      operator.sign.toList.head? ≠ some ':' := by
  cases operator <;> decide

end Boundaries

section Recognition

variable {dialect : Dialect} {lead : String}

/-- An operand whose text tells it from other operands. -/
def TellsOperand (dialect : Dialect) (lead : String) (first : Expression) : Prop :=
  ∀ {second : Expression}, Straight dialect second → second.IsOperand →
    Text.Told (expressionText dialect lead) Apart first second

/-- An expression whose text tells it from all that are grouped to the right. -/
def Tells (dialect : Dialect) (lead : String) (first : Expression) : Prop :=
  ∀ {second : Expression}, Straight dialect second →
    Text.Told (expressionText dialect lead) Closes first second

/-- A link to expressions that are told by their texts. -/
inductive TellsLink (dialect : Dialect) (lead : String) : Option Link → Prop where
  | none : TellsLink dialect lead none
  | compare (operator : Comparison) {right : Expression} (hright : Tells dialect lead right) :
      TellsLink dialect lead (some (.compare operator right))
  | choose {whenTrue whenFalse : Expression} (htrue : Tells dialect lead whenTrue)
      (hfalse : Tells dialect lead whenFalse) :
      TellsLink dialect lead (some (.choose whenTrue whenFalse))

/-- The sign between an operand and the next. -/
def Link.sign : Link → String
  | .compare operator _ => operator.sign
  | .choose .. => "?"

/-- What stands behind that sign. -/
def Link.behind (dialect : Dialect) (lead : String) : Link → List Char
  | .compare _ right => (expressionText dialect lead right).toList
  | .choose whenTrue whenFalse =>
    (expressionText dialect lead whenTrue).toList
      ++ ' ' :: ':' :: ' ' :: (expressionText dialect lead whenFalse).toList

theorem toList_linkText (link : Link) :
    (linkText dialect lead (some link)).toList
      = ' ' :: (link.sign.toList ++ ' ' :: link.behind dialect lead) := by
  have hspace : " ".toList = [' '] := rfl
  have hmark : " ? ".toList = ' ' :: ("?".toList ++ [' ']) := rfl
  have hcolon : " : ".toList = [' ', ':', ' '] := rfl
  cases link with
  | compare operator right =>
      simp only [linkText, Link.sign, Link.behind, String.toList_append, hspace, List.cons_append,
        List.nil_append, List.append_assoc]
  | choose whenTrue whenFalse =>
      simp only [linkText, Link.sign, Link.behind, String.toList_append, hmark, hcolon,
        List.cons_append, List.nil_append, List.append_assoc]

/-- Signs are words of their own between spaces, and the colon is none of them. -/
theorem Link.sign_spec (link : Link) :
    link.sign.toList.all (· != ' ') = true ∧ link.sign.toList.head? ≠ some ':' := by
  cases link with
  | compare operator right => exact ⟨operator.sign_spec.1, operator.sign_spec.2.2⟩
  | choose whenTrue whenFalse =>
      rw [Link.sign]
      decide

theorem not_closes_linkText (link : Link) (rest : List Char) :
    ¬ Closes ((linkText dialect lead (some link)).toList ++ rest) := by
  intro hcloses
  have hhead : (link.sign.toList ++ ' ' :: (link.behind dialect lead ++ rest)).head?
      ≠ some ':' := by
    have hsign := link.sign_spec.2
    cases hchars : link.sign.toList with
    | nil => simp
    | cons c tail => simpa [hchars] using hsign
  rw [toList_linkText, List.cons_append, List.append_assoc, List.cons_append] at hcloses
  generalize link.sign.toList ++ ' ' :: (link.behind dialect lead ++ rest) = behind at *
  cases hcloses
  exact hhead rfl

theorem apart_linkText (next : Option Link) {rest : List Char} (hrest : Closes rest) :
    Apart ((linkText dialect lead next).toList ++ rest) := by
  cases next with
  | none => exact hrest.apart
  | some link =>
      rw [toList_linkText]
      simp [Apart]

/-- Links with the same text have the same sign. -/
theorem linkText_append_inj {first second : Link} {rest later : List Char}
    (h : (linkText dialect lead (some first)).toList ++ rest
      = (linkText dialect lead (some second)).toList ++ later) :
    first.sign = second.sign ∧
      first.behind dialect lead ++ rest = second.behind dialect lead ++ later := by
  simp only [toList_linkText, List.cons_append, List.append_assoc, List.cons.injEq,
    true_and] at h
  rcases Text.word_append_inj (List.all_eq_true.mp first.sign_spec.1)
    (List.all_eq_true.mp second.sign_spec.1) (by simp) (by simp) h with ⟨hsign, hbehind⟩
  exact ⟨String.toList_inj.mp hsign, (List.cons.inj hbehind).2⟩

/-- A link is told by its text. -/
theorem TellsLink.inj {next other : Option Link} (hnext : TellsLink dialect lead next)
    (hother : StraightLink dialect other) {rest later : List Char} (hrest : Closes rest)
    (hlater : Closes later)
    (h : (linkText dialect lead next).toList ++ rest
      = (linkText dialect lead other).toList ++ later) : next = other ∧ rest = later := by
  cases hnext with
  | none =>
      cases other with
      | none => exact ⟨rfl, h⟩
      | some link =>
          rw [show rest = _ from h] at hrest
          exact absurd hrest (not_closes_linkText link later)
  | @compare operator right hright =>
      cases hother with
      | none =>
          rw [show later = _ from h.symm] at hlater
          exact absurd hlater (not_closes_linkText _ rest)
      | compare operator' hright' =>
          rcases linkText_append_inj h with ⟨hsign, hbehind⟩
          rcases hright hright' hrest hlater hbehind with ⟨rfl, hrest⟩
          rw [Comparison.sign_inj hsign]
          exact ⟨rfl, hrest⟩
      | choose htrue' hfalse' =>
          exact absurd (linkText_append_inj h).1 operator.sign_spec.2.1
  | choose htrue hfalse =>
      cases hother with
      | none =>
          rw [show later = _ from h.symm] at hlater
          exact absurd hlater (not_closes_linkText _ rest)
      | compare operator' hright' =>
          exact absurd (linkText_append_inj h).1.symm operator'.sign_spec.2.1
      | choose htrue' hfalse' =>
          have hbehind := (linkText_append_inj h).2
          simp only [Link.behind, List.append_assoc, List.cons_append] at hbehind
          -- The first branch ends at the colon, and then the second one is left.
          rcases htrue htrue' (.colon _) (.colon _) hbehind with ⟨rfl, hbranch⟩
          simp only [List.cons.injEq, true_and] at hbranch
          rcases hfalse hfalse' hrest hlater hbranch with ⟨rfl, hrest⟩
          exact ⟨rfl, hrest⟩

/-- An operand that is told by its text, in front of a link that is. -/
theorem tells_attach {first : Expression} {next : Option Link}
    (hfirst : TellsOperand dialect lead first) (hnext : TellsLink dialect lead next) :
    Tells dialect lead (first.attach next) := by
  intro second hsecond rest later hrest hlater h
  rcases hsecond.split with ⟨operand, other, rfl, hoperand, hstraight, hother⟩
  simp only [expressionText_attach, String.toList_append, List.append_assoc] at h
  -- Neither a link nor what closes the chain could belong to the operand in front of it.
  rcases hfirst hstraight hoperand (apart_linkText next hrest) (apart_linkText other hlater) h with
    ⟨rfl, hlinks⟩
  rcases hnext.inj hother hrest hlater hlinks with ⟨rfl, hrest⟩
  exact ⟨rfl, hrest⟩

theorem expressionTexts_eq_map (expressions : List Expression) :
    expressionTexts dialect lead expressions = expressions.map (expressionText dialect lead) := by
  induction expressions with
  | nil => rw [expressionTexts, List.map_nil]
  | cons expression expressions ih => rw [expressionTexts, ih, List.map_cons]

theorem toList_expressionText_invoke (name : String) (type : TypeName)
    (parameters : List Expression) :
    (expressionText dialect lead (.invoke (.named name) type parameters)).toList
      = name.toList ++ '(' :: ((", ".intercalate
        (parameters.map (expressionText dialect lead))).toList ++ [')']) := by
  simp only [expressionText, callableText, expressionTexts_eq_map, String.toList_append,
    List.append_assoc]
  rfl

theorem toList_expressionText_variable (name : String) :
    (expressionText dialect lead (.variable name)).toList
      = dialect.variableSign.toList ++ name.toList := by
  rw [expressionText, String.toList_append]

/-- The sign of variables stands in no name and is no bracket. -/
def Dialect.Marking (dialect : Dialect) : Prop :=
  ∀ c ∈ dialect.variableSign.toList, c.isAlpha = false ∧ c ≠ '(' ∧ c ≠ ')'

instance (dialect : Dialect) : Decidable dialect.Marking :=
  List.decidableBAll _ dialect.variableSign.toList

/-- What an expression that is grouped to the right starts with does not close anything. -/
theorem Straight.head?_ne (hmarking : dialect.Marking) {expression : Expression}
    (h : Straight dialect expression) (rest : List Char) :
    ((expressionText dialect lead expression).toList ++ rest).head? ≠ some ')' := by
  induction h generalizing rest with
  | @leaf name hname hshows =>
      rw [toList_expressionText_variable]
      cases hchars : dialect.variableSign.toList ++ name.toList with
      | nil =>
          rw [← String.toList_append, String.toList_eq_nil_iff] at hchars
          exact absurd hchars hshows
      | cons c tail =>
          have hmem : c ∈ dialect.variableSign.toList ++ name.toList :=
            hchars ▸ List.mem_cons_self
          rintro ⟨⟩
          -- The first character is one of the sign or of the name, and neither has a bracket.
          rcases List.mem_append.mp hmem with hsign | hletter
          · exact (hmarking _ hsign).2.2 rfl
          · exact absurd (hname _ hletter) (by decide)
  | @invoke name hname _ _ _ =>
      rw [toList_expressionText_invoke]
      cases hchars : name.toList with
      | nil => simp
      | cons c tail =>
          rintro ⟨⟩
          exact absurd (hname _ (hchars ▸ List.mem_cons_self)) (by decide)
  | compare operator _ _ _ ihleft _ =>
      -- A chain starts with the text of its first operand.
      simp only [expressionText, String.toList_append, List.append_assoc]
      exact ihleft _
  | conditional _ _ _ _ ihcondition _ _ =>
      simp only [expressionText, String.toList_append, List.append_assoc]
      exact ihcondition _

/-- A variable is no invocation, since nothing like parameters follows it. -/
theorem variable_ne_invoke (hmarking : dialect.Marking) {name other : String}
    (hname : Lettered name) (hother : Lettered other) {rest : List Char} (hrest : Apart rest)
    (later : List Char) :
    dialect.variableSign.toList ++ (name.toList ++ rest) ≠ other.toList ++ '(' :: later := by
  intro h
  cases hsign : dialect.variableSign.toList with
  | nil =>
      rw [hsign, List.nil_append] at h
      have hsame := (Text.word_append_inj hname hother (fun c hc => (hrest c hc).1) (by simp) h).2
      rw [hsame] at hrest
      exact (hrest '(' rfl).2 rfl
  | cons d sign =>
      have hd := hmarking d (hsign ▸ List.mem_cons_self)
      cases hchars : other.toList with
      | nil =>
          rw [hsign, hchars, List.cons_append, List.nil_append, List.cons.injEq] at h
          exact hd.2.1 h.1
      | cons c tail =>
          rw [hsign, hchars, List.cons_append, List.cons_append, List.cons.injEq] at h
          have hc : c.isAlpha = true := hother c (hchars ▸ List.mem_cons_self)
          rw [← h.1, hd.1] at hc
          cases hc

/-- Variables are told by their names. -/
theorem tellsOperand_variable (hmarking : dialect.Marking) {name : String}
    (hname : Lettered name) : TellsOperand dialect lead (.variable name) := by
  intro second hsecond hoperand rest later hrest hlater h
  cases hsecond with
  | leaf hother _ =>
      simp only [toList_expressionText_variable, List.append_assoc,
        List.append_cancel_left_eq] at h
      rcases Text.word_append_inj hname hother (fun c hc => (hrest c hc).1)
        (fun c hc => (hlater c hc).1) h with ⟨hnames, hsame⟩
      rw [String.toList_inj.mp hnames]
      exact ⟨rfl, hsame⟩
  | invoke hother hparameters =>
      simp only [toList_expressionText_variable, toList_expressionText_invoke, List.append_assoc,
        List.cons_append] at h
      exact absurd h (variable_ne_invoke hmarking hname hother hrest _)
  | compare | conditional => exact hoperand.elim

/-- Invocations are told by their names and parameters. -/
theorem tellsOperand_invoke (hmarking : dialect.Marking) {name : String}
    (hname : Lettered name) {parameters : List Expression}
    (hparameters : ∀ parameter ∈ parameters,
      Straight dialect parameter ∧ Tells dialect lead parameter) :
    TellsOperand dialect lead (.invoke (.named name) .any parameters) := by
  intro second hsecond hoperand rest later hrest hlater h
  cases hsecond with
  | leaf hother _ =>
      simp only [toList_expressionText_variable, toList_expressionText_invoke, List.append_assoc,
        List.cons_append] at h
      exact absurd h.symm (variable_ne_invoke hmarking hother hname hlater _)
  | @invoke other hother parameters' hparameters' =>
      simp only [toList_expressionText_invoke, List.append_assoc, List.cons_append,
        List.nil_append] at h
      -- The names end at the bracket, and the parameters at the one that closes it.
      rcases Text.word_append_inj hname hother (by simp) (by simp) h with ⟨hnames, hinside⟩
      have hstarts : ∀ parameter ∈ parameters ++ parameters', ∀ rest,
          ((expressionText dialect lead parameter).toList ++ rest).head? ≠ some ')' := by
        intro parameter hmem
        rcases List.mem_append.mp hmem with hmem | hmem
        · exact (hparameters parameter hmem).1.head?_ne hmarking
        · exact (hparameters' parameter hmem).head?_ne hmarking
      have htold : ∀ first ∈ parameters, ∀ second ∈ parameters',
          Text.Told (expressionText dialect lead) Closes first second :=
        fun first hmem second hmem' => (hparameters first hmem).2 (hparameters' second hmem')
      rcases Text.intercalate_append_inj Closes.comma rfl htold
        ⟨.bracket rest, .bracket later, rfl, by simp⟩ hstarts (List.cons.inj hinside).2 with
        ⟨hsame, hclosing⟩
      rw [String.toList_inj.mp hnames, hsame]
      exact ⟨rfl, (List.cons.inj hclosing).2⟩
  | compare | conditional => exact hoperand.elim

/-- Among expressions that are grouped to the right, each is told by its text. -/
theorem Straight.tells (hmarking : dialect.Marking) {expression : Expression}
    (h : Straight dialect expression) :
    (expression.IsOperand → TellsOperand dialect lead expression)
      ∧ Tells dialect lead expression := by
  induction h with
  | leaf hname _ =>
      have hoperand : TellsOperand dialect lead _ := tellsOperand_variable hmarking hname
      exact ⟨fun _ => hoperand, tells_attach hoperand .none⟩
  | invoke hname hparameters ih =>
      have hoperand : TellsOperand dialect lead _ :=
        tellsOperand_invoke hmarking hname fun parameter hmem =>
          ⟨hparameters parameter hmem, (ih parameter hmem).2⟩
      exact ⟨fun _ => hoperand, tells_attach hoperand .none⟩
  | compare operator hoperand _ _ ihleft ihright =>
      exact ⟨False.elim, tells_attach (ihleft.1 hoperand) (.compare operator ihright.2)⟩
  | conditional hoperand _ _ _ ihcondition ihtrue ihfalse =>
      exact ⟨False.elim, tells_attach (ihcondition.1 hoperand) (.choose ihtrue.2 ihfalse.2)⟩

/-- Plain expressions have the same text exactly if they are the same once they are grouped
    to the right. -/
theorem Plain.expressionText_eq_iff (hmarking : dialect.Marking) {first second : Expression}
    (hfirst : Plain dialect first) (hsecond : Plain dialect second) :
    expressionText dialect lead first = expressionText dialect lead second
      ↔ first.straighten = second.straighten := by
  have htext : ∀ expression : Expression,
      expressionText dialect lead expression.straighten
        = expressionText dialect lead expression := by
    intro expression
    rw [Expression.straighten, expressionText_straightenOnto, linkText, String.append_empty]
  constructor
  · intro hsame
    have hstraight : Straight dialect first.straighten := hfirst.straight_straightenOnto .none
    have hother : Straight dialect second.straighten := hsecond.straight_straightenOnto .none
    -- Nothing follows either text, which is one of the ways to close a chain.
    rw [← htext first, ← htext second] at hsame
    exact ((hstraight.tells hmarking).2 hother .nothing .nothing
      (congrArg (·.toList ++ []) hsame)).1
  · intro hsame
    rw [← htext first, hsame, htext]

/-- There are no literals in a plain expression, so nothing takes several lines. -/
theorem Plain.expressionWraps_eq_false {expression : Expression} (h : Plain dialect expression) :
    expressionWraps dialect expression = false := by
  have hlist : ∀ {expressions : List Expression},
      (∀ expression ∈ expressions, expressionWraps dialect expression = false) →
      expressionsWrap dialect expressions = false := by
    intro expressions hexpressions
    induction expressions with
    | nil => rw [expressionsWrap]
    | cons expression expressions ih =>
        rw [List.forall_mem_cons] at hexpressions
        rw [expressionsWrap, hexpressions.1, ih hexpressions.2, Bool.or_false]
  induction h with
  | leaf hname _ => rw [expressionWraps]
  | invoke hname type _ ih => rw [expressionWraps, hlist ih]
  | compare operator _ _ ihleft ihright =>
      rw [expressionWraps, ihleft, ihright, Bool.or_false]
  | conditional _ _ _ ihcondition ihtrue ihfalse =>
      rw [expressionWraps, ihcondition, ihtrue, ihfalse, Bool.or_false, Bool.or_false]

/-- A plain expression settles whatever the configuration is. -/
theorem Plain.settle_expressionDraft {expression : Expression} (h : Plain dialect expression)
    (config : Print.Config) :
    (expressionDraft dialect expression).settle config
      = .ok (expressionText dialect "" expression) := by
  have hasks : (expressionDraft dialect expression).asks = false := h.expressionWraps_eq_false
  rw [Print.Draft.settle, hasks]
  rfl

end Recognition

end Code

open Print Code

/-- Plain expressions are printed without any middleware, and they have the same text exactly
    if they are the same once they are grouped to the right. -/
theorem same_text_iff_same_chain (first second : Expression) (config : Config) :
    (Plain Php.dialect first → Plain Php.dialect second →
      ∃ text other,
        (Php.expressionOutline first).Shows (.initial config []) text ∧
        (Php.expressionOutline second).Shows (.initial config []) other ∧
        (text = other ↔ first.straighten = second.straighten)) ∧
    (Plain TypeScript.dialect first → Plain TypeScript.dialect second →
      ∃ text other,
        (TypeScript.expressionOutline first).Shows (.initial config []) text ∧
        (TypeScript.expressionOutline second).Shows (.initial config []) other ∧
        (text = other ↔ first.straighten = second.straighten)) := by
  have hphp : Php.dialect.Marking := by decide
  have htypeScript : TypeScript.dialect.Marking := by decide
  simp only [Outline.Shows, Php.print_expression _ (List.forall_mem_nil _),
    TypeScript.print_expression _ (List.forall_mem_nil _)]
  constructor
  · intro hfirst hsecond
    rw [hfirst.settle_expressionDraft, hsecond.settle_expressionDraft]
    exact ⟨_, _, rfl, rfl, hfirst.expressionText_eq_iff hphp hsecond⟩
  · intro hfirst hsecond
    rw [hfirst.settle_expressionDraft, hsecond.settle_expressionDraft]
    exact ⟨_, _, rfl, rfl, hfirst.expressionText_eq_iff htypeScript hsecond⟩

/-- A choice that depends on a comparison, and a comparison with a choice. -/
theorem same_text_iff_same_chain_choice :
    ∃ text,
      (Php.expressionOutline (.conditional
          (.compare .lessThan (.variable "a") (.invoke (.named "f") ⟨"int"⟩ [.variable "b"]))
          (.variable "b") (.variable "c"))).Shows (.initial .standard []) text ∧
      (Php.expressionOutline (.compare .lessThan (.variable "a")
          (.conditional (.invoke (.named "f") .any [.variable "b"]) (.variable "b")
            (.variable "c")))).Shows (.initial .standard []) text := by
  have ha : Plain Php.dialect (.variable "a") := .leaf (by decide) (by decide)
  have hb : Plain Php.dialect (.variable "b") := .leaf (by decide) (by decide)
  have hc : Plain Php.dialect (.variable "c") := .leaf (by decide) (by decide)
  have hcall : ∀ type, Plain Php.dialect (.invoke (.named "f") type [.variable "b"]) :=
    fun type => .invoke (by decide) type (List.forall_mem_singleton.mpr hb)
  rcases (same_text_iff_same_chain _ _ .standard).1
    (.conditional (.compare .lessThan ha (hcall ⟨"int"⟩)) hb hc)
    (.compare .lessThan ha (.conditional (hcall .any) hb hc)) with
    ⟨text, other, hchoice, hcomparison, hsame⟩
  obtain rfl : text = other := hsame.mpr rfl
  exact ⟨text, hchoice, hcomparison⟩

/-- Comparisons that are grouped differently have the same text, and so have invocations of
    different types. Without a sign a variable with no name does not show at all. -/
theorem groupings_clash :
    (Expression.compare .doubleEqual (.compare .doubleEqual (.variable "a") (.variable "b"))
          (.variable "c")
        ≠ .compare .doubleEqual (.variable "a")
          (.compare .doubleEqual (.variable "b") (.variable "c")) ∧
      (Php.expressionOutline (.compare .doubleEqual
          (.compare .doubleEqual (.variable "a") (.variable "b")) (.variable "c"))).Shows
        (.initial .standard []) "$a == $b == $c" ∧
      (Php.expressionOutline (.compare .doubleEqual (.variable "a")
          (.compare .doubleEqual (.variable "b") (.variable "c")))).Shows
        (.initial .standard []) "$a == $b == $c" ∧
      (TypeScript.expressionOutline (.compare .doubleEqual
          (.compare .doubleEqual (.variable "a") (.variable "b")) (.variable "c"))).Shows
        (.initial .standard []) "a == b == c" ∧
      (TypeScript.expressionOutline (.compare .doubleEqual (.variable "a")
          (.compare .doubleEqual (.variable "b") (.variable "c")))).Shows
        (.initial .standard []) "a == b == c") ∧
    (Expression.invoke (.named "f") ⟨"int"⟩ [] ≠ .invoke (.named "f") ⟨"string"⟩ [] ∧
      (Php.expressionOutline (.invoke (.named "f") ⟨"int"⟩ [])).Shows
        (.initial .standard []) "f()" ∧
      (Php.expressionOutline (.invoke (.named "f") ⟨"string"⟩ [])).Shows
        (.initial .standard []) "f()" ∧
      (TypeScript.expressionOutline (.invoke (.named "f") ⟨"int"⟩ [])).Shows
        (.initial .standard []) "f()" ∧
      (TypeScript.expressionOutline (.invoke (.named "f") ⟨"string"⟩ [])).Shows
        (.initial .standard []) "f()") ∧
    (TypeScript.expressionOutline (.invoke (.named "f") ⟨"int"⟩ [.variable ""])).Shows
      (.initial .standard []) "f()" := by
  simp only [Outline.Shows, Php.print_expression _ (List.forall_mem_nil _),
    TypeScript.print_expression _ (List.forall_mem_nil _)]
  refine ⟨⟨?_, rfl, rfl, rfl, rfl⟩, ⟨?_, rfl, rfl, rfl, rfl⟩, rfl⟩
  · simp
  · simp

end ClassForge
