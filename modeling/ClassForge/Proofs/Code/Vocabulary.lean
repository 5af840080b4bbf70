import ClassForge.Php.Outline
import ClassForge.Proofs.Print.Interference
import ClassForge.Proofs.Print.Placement
import ClassForge.TypeScript.Outline

/-!
# The Printers of a Grammar

An outline may hold any printer, but a grammar only ever uses a few. There are the
printers of no grammar, one more for whole files, and those that a grammar has for
its own constructs. What holds of each of them holds of everything in the tree of a
construct, so that properties of printers are proved once for each printer and not
again for each way in which constructs may be nested.

A grammar is not only printed as a whole file. Statements, expressions and their
parts have outlines of their own, and a `Construct` is anything that has one.

## Main definitions

* `Outline.Every`: Outlines whose printers are all of one kind.
* `Printer.Common`, `Outline.Uses`: The printers that all grammars share, and all
  that a grammar uses.
* `Outline.Words`: Those that are used for expressions.
* `Php.Own`, `TypeScript.Own`: The printers of the two grammars.
* `Code.Construct`, `Php.constructOutline`, `TypeScript.constructOutline`: What can be
  printed.

## Theorems

* `Outline.Every.tree`: What holds in an outline holds in its tree.
* `Outline.every_one`, `Outline.every_two`, `Outline.every_three`: Outlines put
  together.
-/

namespace ClassForge

open Print

namespace Print

/-- The printers that belong to no grammar and are given by no layout of their
    own. -/
inductive Printer.Common : Printer → Prop where
  | text (name content : String) : Common (.text name content)
  | passThrough : Common .passThrough
  | join (combine : List String → String) : Common (.join combine)
  | sequence : Common .sequence

namespace Outline

/-- An outline whose printers are all of one kind. -/
inductive Every (holds : Printer → Prop) : Outline → Prop where
  | node {printer : Printer} {children : List Outline} (hprinter : holds printer)
      (hchildren : ∀ child ∈ children, child.Every holds) : Every holds (.node printer children)

/-- The printers that the outlines of a grammar are made of, given those that are its
    own. -/
inductive Uses (own : Printer → Prop) : Printer → Prop where
  | common {printer : Printer} (h : printer.Common) : Uses own printer
  | file (statements : List Outline) : Uses own (file statements).printer
  | own {printer : Printer} (h : own printer) : Uses own printer

/-- The printers among them that expressions are made of. None of them puts statements
    in a row. -/
inductive Words (own : Printer → Prop) : Printer → Prop where
  | text (name content : String) : Words own (.text name content)
  | join (combine : List String → String) : Words own (.join combine)
  | own {printer : Printer} (h : own printer) : Words own printer

variable {holds own : Printer → Prop} {outline : Outline} {children : List Outline}
  {printer : Printer}

theorem Every.imp {weaker : Printer → Prop} (h : outline.Every holds)
    (himp : ∀ {printer}, holds printer → weaker printer) : outline.Every weaker := by
  induction h with
  | node hprinter _ ih => exact .node (himp hprinter) ih

theorem Every.used (h : outline.Every (Words own)) : outline.Every (Uses own) := by
  refine h.imp fun hprinter => ?_
  cases hprinter with
  | text name content => exact .common (.text name content)
  | join combine => exact .common (.join combine)
  | own hown => exact .own hown

theorem Every.placed (h : outline.Every holds) (parentKind : Option Kind) (base : Nat) :
    (outline.placed parentKind base).Every holds := by
  induction h generalizing parentKind base with
  | node hprinter _ ih =>
      rw [Outline.placed]
      refine .node hprinter fun child hmem => ?_
      rcases exists_placed_of_mem hmem with ⟨below, hbelow, start, rfl⟩
      exact ih below hbelow _ start

theorem Every.tree (h : outline.Every holds) : outline.tree.Every holds := by
  rw [tree_eq_placed]
  exact h.placed none 0

theorem every_text (name content : String) : (text name content).Every (Words own) :=
  .node (.text name content) (List.forall_mem_nil _)

theorem every_separated (separator : String) (h : ∀ child ∈ children, child.Every (Words own)) :
    (separated separator children).Every (Words own) :=
  .node (.join _) h

theorem every_words {ι : Type} (name separator : String) (word : ι → String) (items : List ι) :
    (separated separator (items.map fun item => text name (word item))).Every (Words own) := by
  refine every_separated separator fun child hmem => ?_
  rcases List.mem_map.mp hmem with ⟨item, -, rfl⟩
  exact every_text name (word item)

theorem every_sequence (h : ∀ child ∈ children, child.Every (Uses own)) :
    (sequence children).Every (Uses own) :=
  .node (.common .sequence) h

theorem every_body (h : ∀ child ∈ children, child.Every (Uses own)) :
    (body children).Every (Uses own) :=
  .node (.common .passThrough) (List.forall_mem_singleton.mpr (every_sequence h))

theorem every_file (h : ∀ child ∈ children, child.Every (Uses own)) :
    (file children).Every (Uses own) :=
  .node (.file children) (List.forall_mem_singleton.mpr (every_sequence h))

theorem every_one {only : Outline} (hprinter : holds printer) (honly : only.Every holds) :
    (node printer [only]).Every holds :=
  .node hprinter (List.forall_mem_singleton.mpr honly)

theorem every_two {first second : Outline} (hprinter : holds printer)
    (hfirst : first.Every holds) (hsecond : second.Every holds) :
    (node printer [first, second]).Every holds :=
  .node hprinter (List.forall_mem_cons.mpr ⟨hfirst, List.forall_mem_singleton.mpr hsecond⟩)

theorem every_three {first second third : Outline} (hprinter : holds printer)
    (hfirst : first.Every holds) (hsecond : second.Every holds)
    (hthird : third.Every holds) : (node printer [first, second, third]).Every holds :=
  .node hprinter (List.forall_mem_cons.mpr
    ⟨hfirst, List.forall_mem_cons.mpr ⟨hsecond, List.forall_mem_singleton.mpr hthird⟩⟩)

end Outline

end Print

open Outline

/-- Anything of a grammar with these statements that can be printed on its own. -/
inductive Code.Construct (Statement : Type) where
  | file (statements : List Statement)
  | statement (given : Statement)
  | body (statements : List Statement)
  | argument (given : Argument)
  | target (given : Target)
  | callable (given : Callable)
  | expression (given : Expression)

namespace Php

open Code

/-- The printers of the grammar. -/
inductive Own : Printer → Prop where
  | classDecl (name : String) : Own (Printers.classDecl name)
  | member (name : String) : Own (Printers.member name)
  | method (name : String) : Own (Printers.method name)
  | assignment : Own Printers.assignment
  | returns : Own (Printers.affix .returns "return " ";")
  | expression : Own (Printers.affix .expressionStatement "" ";")
  | invocation : Own Printers.invocation
  | comparison : Own Printers.comparison
  | conditional : Own Printers.conditional
  | array : Own Printers.array
  | element (key : Option String) : Own (Printers.element key)

/-- The outline of a construct. -/
def constructOutline : Construct Statement → Outline
  | .file statements => fileOutline statements
  | .statement given => statementOutline given
  | .body statements => bodyOutline statements
  | .argument given => argumentOutline given
  | .target given => targetOutline given
  | .callable given => callableOutline given
  | .expression given => expressionOutline given

end Php

namespace TypeScript

open Code

/-- The printers of the grammar. -/
inductive Own : Printer → Prop where
  | classDecl (exported : Bool) (name : String) : Own (Printers.classDecl exported name)
  | member (name : String) (type : TypeName) : Own (Printers.member name type)
  | method (name : String) (returns : Option TypeName) : Own (Printers.method name returns)
  | assignment : Own (Printers.statement .assignment 2)
  | returns : Own (Printers.statement .returns 1)
  | expression : Own (Printers.statement .expressionStatement 1)
  | invocation : Own Printers.invocation
  | conditional : Own Printers.conditional
  | array : Own (Printers.literal "[" "]")
  | object : Own (Printers.literal "\x7b" "\x7d")
  | element (key : Option String) : Own (Printers.element key)

/-- The outline of a construct. -/
def constructOutline : Construct Statement → Outline
  | .file statements => fileOutline statements
  | .statement given => statementOutline given
  | .body statements => bodyOutline statements
  | .argument given => argumentOutline given
  | .target given => targetOutline given
  | .callable given => callableOutline given
  | .expression given => expressionOutline given

end TypeScript

end ClassForge
