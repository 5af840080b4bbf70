import ClassForge.Print.Render

/-!
# Printers that Combine

Most printers do the same thing: they ask for each of their children once, in
order, and make one text of the answers. Written out, no two of them look
alike. One asks for a child at a time and names the answers, another asks for
all of them at once, a third first insists on how many there are. `Combines`
is the form they share, so that what is true of asking for all children has to
be said only once.

A layout is data, and `Layout.bind_assoc` and `Layout.run_bind` are what makes
it pleasant data: plans may be regrouped, and carrying out one plan after the
other is carrying out both.

## Main definitions

* `Parts.one`, `Parts.two`, `Parts.three`: Functions of so many texts as
  functions of a list.
* `Printer.Combines`: A printer that asks for all its children and combines
  their texts.

## Theorems

* `Layout.bind_assoc`: Plans may be regrouped.
* `Layout.run_bind`: Carrying out one plan after the other.
* `Scope.texts_one`, `Scope.texts_two`, `Scope.texts_three`: Asking for all
  children, written out.
* `Printer.combines_text`, `Printer.combines_passThrough`, `Printer.combines_join`,
  `Printer.combines_sequence`: The printers of no grammar.
* `Printer.combines_one`, `Printer.combines_two`, `Printer.combines_three`:
  Printers that insist on how many children there are and name each of them.
-/

namespace ClassForge

namespace Print

variable {σ μ α β γ : Type}

namespace Layout

/-- Plans may be regrouped. -/
theorem bind_assoc (layout : Layout α) (next : α → Layout β) (last : β → Layout γ) :
    (layout.bind next).bind last = layout.bind fun value => (next value).bind last := by
  induction layout with
  | done value => rfl
  | fail error => rfl
  | overflow cause => rfl
  | ask index rule adjust rest ih =>
      rw [Layout.bind, Layout.bind, Layout.bind]
      congr 1
      funext answer
      exact ih answer

/-- Carrying out one plan after the other. -/
theorem run_bind (hooks : Hooks σ μ) (kind : Kind) (children : List (Renderer σ μ))
    (context : Context μ) (layout : Layout α) (next : α → Layout β) :
    (layout.bind next).run hooks kind children context
      = layout.run hooks kind children context >>= fun value =>
        (next value).run hooks kind children context := by
  induction layout with
  | done value => rw [Layout.bind, Layout.run, pure_bind]
  | fail error => rfl
  | overflow cause => rfl
  | ask index rule adjust rest ih =>
      rw [Layout.bind, Layout.run, Layout.run, LawfulMonad.bind_assoc]
      congr 1
      funext answer
      exact ih answer

end Layout

namespace Scope

variable {scope : Scope}

/-- Insisting on the number of children that there are changes nothing. -/
theorem expect_eq {count : Nat} (hcount : scope.children.length = count) :
    scope.expect count = .done () := by
  rw [expect, if_pos hcount]

theorem texts_one (hcount : scope.children.length = 1) (next : List String → Layout α) :
    scope.texts.bind next = (Layout.child 0).bind fun first => next [first] := by
  rw [texts, hcount]
  simp only [Layout.childrenFrom, bind, Layout.bind_assoc]
  rfl

theorem texts_two (hcount : scope.children.length = 2) (next : List String → Layout α) :
    scope.texts.bind next = (Layout.child 0).bind fun first =>
      (Layout.child 1).bind fun second => next [first, second] := by
  rw [texts, hcount]
  simp only [Layout.childrenFrom, bind, Layout.bind_assoc]
  rfl

theorem texts_three (hcount : scope.children.length = 3) (next : List String → Layout α) :
    scope.texts.bind next = (Layout.child 0).bind fun first =>
      (Layout.child 1).bind fun second =>
        (Layout.child 2).bind fun third => next [first, second, third] := by
  rw [texts, hcount]
  simp only [Layout.childrenFrom, bind, Layout.bind_assoc]
  rfl

end Scope

namespace Parts

/-- A function of one text, for a list of one. -/
def one (combine : String → String) : List String → String
  | [first] => combine first
  | _ => ""

/-- A function of two texts, for a list of two. -/
def two (combine : String → String → String) : List String → String
  | [first, second] => combine first second
  | _ => ""

/-- A function of three texts, for a list of three. -/
def three (combine : String → String → String → String) : List String → String
  | [first, second, third] => combine first second third
  | _ => ""

end Parts

namespace Printer

/-- A printer that, with `count` children, asks for all of them in order and
    combines their texts. -/
def Combines (printer : Printer) (count : Nat) (combine : List String → String) : Prop :=
  ∀ (scope : Scope) (view : View), scope.children.length = count →
    printer.layout scope view = scope.texts.bind fun parts => .done (combine parts)

theorem combines_text (name content : String) :
    (text name content).Combines 0 fun _ => content := by
  intro scope view hcount
  rw [Scope.texts, hcount]
  rfl

theorem combines_passThrough : passThrough.Combines 1 String.join := by
  intro scope view hcount
  have hjoin : ∀ text, String.join [text] = text := by
    intro text
    rw [String.join_cons, String.join_nil, String.append_empty]
  change (scope.expect 1).bind (fun _ => Layout.child 0) = _
  rw [Scope.expect_eq hcount, Scope.texts_one hcount]
  simp only [hjoin]
  -- Asking and passing on the answer is asking.
  change Layout.ask 0 _ _ _ = Layout.ask 0 _ _ _
  congr 1
  funext answer
  cases answer <;> rfl

theorem combines_join (combine : List String → String) (count : Nat) :
    (join combine).Combines count combine :=
  fun _ _ _ => rfl

theorem combines_sequence (count : Nat) : sequence.Combines count "\n".intercalate :=
  fun _ _ _ => rfl

variable {printer : Printer}

theorem combines_one {combine : String → String}
    (hlayout : ∀ (scope : Scope) (view : View), printer.layout scope view
      = (scope.expect 1).bind fun _ => (Layout.child 0).bind fun first => .done (combine first)) :
    printer.Combines 1 (Parts.one combine) := by
  intro scope view hcount
  rw [hlayout, Scope.expect_eq hcount, Scope.texts_one hcount]
  rfl

theorem combines_two {combine : String → String → String}
    (hlayout : ∀ (scope : Scope) (view : View), printer.layout scope view
      = (scope.expect 2).bind fun _ => (Layout.child 0).bind fun first =>
        (Layout.child 1).bind fun second => .done (combine first second)) :
    printer.Combines 2 (Parts.two combine) := by
  intro scope view hcount
  rw [hlayout, Scope.expect_eq hcount, Scope.texts_two hcount]
  rfl

theorem combines_three {combine : String → String → String → String}
    (hlayout : ∀ (scope : Scope) (view : View), printer.layout scope view
      = (scope.expect 3).bind fun _ => (Layout.child 0).bind fun first =>
        (Layout.child 1).bind fun second =>
          (Layout.child 2).bind fun third => .done (combine first second third)) :
    printer.Combines 3 (Parts.three combine) := by
  intro scope view hcount
  rw [hlayout, Scope.expect_eq hcount, Scope.texts_three hcount]
  rfl

/-- Of a function of lists only its values on lists of the right length matter. -/
theorem Combines.one {combine : List String → String} (h : printer.Combines 1 combine) :
    printer.Combines 1 (Parts.one fun first => combine [first]) := by
  intro scope view hcount
  rw [h scope view hcount, Scope.texts_one hcount, Scope.texts_one hcount]
  rfl

theorem Combines.two {combine : List String → String} (h : printer.Combines 2 combine) :
    printer.Combines 2 (Parts.two fun first second => combine [first, second]) := by
  intro scope view hcount
  rw [h scope view hcount, Scope.texts_two hcount, Scope.texts_two hcount]
  rfl

end Printer

end Print

end ClassForge
