import ClassForge.Proofs.Generate.Alignment

/-!
# Blocks of a Generated Class

The body of a generated class is a list of statements, made of blocks with an
empty line between any two of them. A block is one declaration, perhaps behind
a documentation comment. This module says which blocks there are, in which
order, and that the empty lines stand between them and nowhere else.

The two grammars put the empty lines in by different loops. One puts a line in
front of every block but the first, whatever the blocks are. The other puts a
line in front of a block whenever there are statements already, so an empty
block at the start would make it forget a line. `joined_eq_separated` is where
the difference disappears, and it needs that blocks are not empty.

The same grouping is done twice, for the readers and for the writers. Both are
paired here with one list of groups, so their order is the same.

## Main definitions

* `separated`, `joined`: The two loops, for statements of any kind.
* `LaidOut`: Statements that are blocks with one empty line between them.
* `Vocabulary`: How the statements of a grammar are told apart.
* `IsWriter`: What is expected of a writer.
* `InOrder`: The blocks of a class, in order.

## Theorems

* `joined_eq_separated`: The loops agree on blocks that are not empty.
* `laidOut_intercalate`: Where the empty lines are.
* `inOrder_of_views`: Blocks made from the views of the fields are in order.
* `InOrder.block_ne_nil`, `InOrder.blank_notMem`: No block is empty, and none has
  an empty line in it.
* `class_body_in_blocks`: The body of a generated class.
-/

namespace ClassForge

namespace Generate

open Code Spec

variable {σ : Type}

/-- Blocks with a blank in front of each but the first. -/
def separated (blank : σ) : List (List σ) → List σ
  | [] => []
  | block :: blocks => block ++ blocks.flatMap fun block => blank :: block

/-- The statements so far with one more block, behind a blank unless there are
    none. -/
def appendBlock (blank : σ) (statements block : List σ) : List σ :=
  match statements with
  | [] => block
  | _ => statements ++ blank :: block

/-- Blocks one behind the other, each behind a blank if anything is there. -/
def joined (blank : σ) (blocks : List (List σ)) : List σ := blocks.foldl (appendBlock blank) []

/-- Statements that are blocks with exactly one blank between them. No block is
    empty and none has a blank in it, so that the statements neither start nor
    end with a blank. -/
structure LaidOut (blank : σ) (blocks : List (List σ)) (statements : List σ) : Prop where
  statements_eq : statements = [blank].intercalate blocks
  block_ne_nil : ∀ block ∈ blocks, block ≠ []
  blank_notMem : ∀ block ∈ blocks, blank ∉ block
  head?_ne : statements.head? ≠ some blank
  getLast?_ne : statements.getLast? ≠ some blank

section Loops

variable {blank : σ} {blocks : List (List σ)}

theorem separated_eq_intercalate (blank : σ) (blocks : List (List σ)) :
    separated blank blocks = [blank].intercalate blocks := by
  cases blocks with
  | nil => rfl
  | cons block blocks =>
      rw [separated]
      -- The block in front is only carried along.
      induction blocks generalizing block with
      | nil => rw [List.flatMap_nil, List.append_nil, List.intercalate_singleton]
      | cons next blocks ih =>
          rw [List.intercalate_cons_cons, ← ih next, List.flatMap_cons, List.append_assoc,
            List.singleton_append, List.cons_append]

/-- Behind statements that are there every block gets its blank. -/
theorem foldl_appendBlock {statements : List σ} (hne : statements ≠ []) :
    blocks.foldl (appendBlock blank) statements
      = statements ++ blocks.flatMap fun block => blank :: block := by
  induction blocks generalizing statements with
  | nil => rw [List.foldl_nil, List.flatMap_nil, List.append_nil]
  | cons block blocks ih =>
      have happend : appendBlock blank statements block = statements ++ blank :: block := by
        cases statements with
        | nil => exact absurd rfl hne
        | cons first rest => rfl
      rw [List.foldl_cons, happend, ih (List.append_ne_nil_of_left_ne_nil hne _),
        List.flatMap_cons, List.append_assoc]

/-- The two loops agree on blocks that are not empty. -/
theorem joined_eq_separated (hne : ∀ block ∈ blocks, block ≠ []) :
    joined blank blocks = separated blank blocks := by
  cases blocks with
  | nil => rfl
  | cons block blocks =>
      rw [joined, List.foldl_cons, appendBlock, separated,
        foldl_appendBlock (hne block List.mem_cons_self)]

theorem intercalate_ne_nil {block : List σ} (hne : block ≠ []) :
    [blank].intercalate (block :: blocks) ≠ [] := by
  cases blocks with
  | nil => rwa [List.intercalate_singleton]
  | cons next blocks =>
      rw [List.intercalate_cons_cons, List.append_assoc]
      exact List.append_ne_nil_of_left_ne_nil hne _

/-- Blocks with one blank between them start like the first. -/
theorem head?_intercalate {block : List σ} (hne : block ≠ []) :
    ([blank].intercalate (block :: blocks)).head? = block.head? := by
  cases blocks with
  | nil => rw [List.intercalate_singleton]
  | cons next blocks =>
      rw [List.intercalate_cons_cons, List.append_assoc, List.head?_append_of_ne_nil _ hne]

/-- Blocks with one blank between them end like one of them. -/
theorem getLast?_intercalate {block : List σ} (hne : ∀ other ∈ block :: blocks, other ≠ []) :
    ∃ other ∈ block :: blocks,
      ([blank].intercalate (block :: blocks)).getLast? = other.getLast? := by
  induction blocks generalizing block with
  | nil => exact ⟨block, List.mem_cons_self, by rw [List.intercalate_singleton]⟩
  | cons next blocks ih =>
      have hrest : ∀ other ∈ next :: blocks, other ≠ [] :=
        fun other hother => hne other (List.mem_cons_of_mem block hother)
      rcases ih hrest with ⟨other, hother, hlast⟩
      refine ⟨other, List.mem_cons_of_mem block hother, ?_⟩
      rw [List.intercalate_cons_cons, List.getLast?_append_of_ne_nil _
        (intercalate_ne_nil (hrest next List.mem_cons_self)), hlast]

/-- Blocks that are not empty and have no blank in them are laid out by one blank
    between any two. -/
theorem laidOut_intercalate (hne : ∀ block ∈ blocks, block ≠ [])
    (hblank : ∀ block ∈ blocks, blank ∉ block) :
    LaidOut blank blocks ([blank].intercalate blocks) := by
  refine ⟨rfl, hne, hblank, ?_, ?_⟩
  · cases blocks with
    | nil => exact fun hhead => by cases hhead
    | cons block blocks =>
        rw [head?_intercalate (hne block List.mem_cons_self)]
        exact fun hhead => hblank block List.mem_cons_self (List.mem_of_head? hhead)
  · cases blocks with
    | nil => exact fun hlast => by cases hlast
    | cons block blocks =>
        rcases getLast?_intercalate hne with ⟨other, hother, hlast⟩
        rw [hlast]
        exact fun hblast => hblank other hother (List.mem_of_getLast? hblast)

end Loops

/-- How the statements of a grammar are told apart, as far as it matters for the
    body of a class. -/
structure Vocabulary (σ : Type) where
  /-- The empty line. -/
  blank : σ
  /-- A documentation comment. -/
  doc : DocComment → σ
  /-- The name of a member, if the statement is one. -/
  member? : σ → Option String
  /-- The common view of a method, if the statement is one. -/
  method? : σ → Option Method
  doc_ne_blank : ∀ comment, doc comment ≠ blank
  member?_blank : member? blank = none
  method?_blank : method? blank = none

namespace Vocabulary

/-- A block: one statement of a certain kind, perhaps behind a documentation
    comment. -/
def Block (words : Vocabulary σ) (kind : σ → Prop) (block : List σ) : Prop :=
  ∃ statement, kind statement ∧
    (block = [statement] ∨ ∃ comment, block = [words.doc comment, statement])

/-- A statement that is the member of a field. -/
def IsMember (words : Vocabulary σ) (field : Field) (statement : σ) : Prop :=
  words.member? statement = some field.name

/-- A statement that is a method of a certain kind. -/
def IsMethod (words : Vocabulary σ) (kind : Method → Prop) (statement : σ) : Prop :=
  ∃ method, words.method? statement = some method ∧ kind method

/-- A statement behind its comment, unless that has nothing to say. -/
def documented (words : Vocabulary σ) (comment : DocComment) (statement : σ) : List σ :=
  if comment.isEmpty then [statement] else [words.doc comment, statement]

variable {words : Vocabulary σ} {kind : σ → Prop} {block : List σ}

theorem block_documented (comment : DocComment) {statement : σ} (hkind : kind statement) :
    words.Block kind (words.documented comment statement) := by
  refine ⟨statement, hkind, ?_⟩
  unfold documented
  split
  · exact .inl rfl
  · exact .inr ⟨comment, rfl⟩

theorem Block.of_method {method : Method} {kind : Method → Prop}
    (h : words.Block (words.IsMethod (· = method)) block) (hkind : kind method) :
    words.Block (words.IsMethod kind) block := by
  rcases h with ⟨statement, ⟨_, hmethod, rfl⟩, hblock⟩
  exact ⟨statement, ⟨_, hmethod, hkind⟩, hblock⟩

theorem Block.ne_nil (h : words.Block kind block) : block ≠ [] := by
  rcases h with ⟨statement, _, rfl | ⟨comment, rfl⟩⟩
  · exact List.cons_ne_nil _ _
  · exact List.cons_ne_nil _ _

theorem Block.blank_notMem (h : words.Block kind block) (hkind : ¬ kind words.blank) :
    words.blank ∉ block := by
  rcases h with ⟨statement, hstatement, rfl | ⟨comment, rfl⟩⟩
  · rw [List.mem_singleton]
    exact fun heq => hkind (heq ▸ hstatement)
  · rw [List.mem_cons, List.mem_singleton]
    rintro (heq | heq)
    · exact words.doc_ne_blank comment heq.symm
    · exact hkind (heq ▸ hstatement)

theorem not_isMember_blank (words : Vocabulary σ) (field : Field) :
    ¬ words.IsMember field words.blank := by
  intro hmember
  rw [IsMember, words.member?_blank] at hmember
  cases hmember

theorem not_isMethod_blank (words : Vocabulary σ) (kind : Method → Prop) :
    ¬ words.IsMethod kind words.blank := by
  rintro ⟨method, hmethod, _⟩
  rw [words.method?_blank] at hmethod
  cases hmethod

end Vocabulary

/-- A writer: a single return of a dictionary with one key for every entry of
    the fields. -/
structure IsWriter (allName : String) (fields : List Field) (group : Option String)
    (method : Method) : Prop where
  name_eq : method.name = methodName group allName "to"
  not_static : method.isStatic = false
  returns : ∃ entries, method.body = [.returns (.dictionary entries)] ∧
    entries.map Prod.fst = (fields.flatMap (entriesIn group)).map FieldEntry.key

/-- The blocks of a class in order: a member for every field, the constructor,
    and then the readers and the writers, each first for all fields and then for
    every group. -/
def InOrder (words : Vocabulary σ) (shape : Shape) (writerName className : String)
    (fields : List Field) (blocks : List (List σ)) : Prop :=
  ∃ members constructor readers writers,
    blocks = members ++ [constructor] ++ readers ++ writers ∧
    List.Forall₂ (fun field => words.Block (words.IsMember field)) fields members ∧
    words.Block (words.IsMethod (IsConstructor shape fields)) constructor ∧
    List.Forall₂ (fun group => words.Block (words.IsMethod (IsReader shape className fields group)))
      (none :: (groupNames fields).map some) readers ∧
    List.Forall₂ (fun group => words.Block (words.IsMethod (IsWriter writerName fields group)))
      (none :: (groupNames fields).map some) writers

section Order

variable {words : Vocabulary σ} {shape : Shape} {writerName className : String}
  {fields : List Field} {blocks : List (List σ)}

/-- A block that is paired with something is of a kind that no empty line is. -/
theorem exists_kind_of_forall₂ {ι : Type} {kind : ι → σ → Prop} {items : List ι}
    {paired : List (List σ)} (hblank : ∀ item, ¬ kind item words.blank)
    (hpaired : List.Forall₂ (fun item => words.Block (kind item)) items paired) {block : List σ}
    (hblock : block ∈ paired) : ∃ kind, words.Block kind block ∧ ¬ kind words.blank := by
  induction hpaired with
  | nil => exact absurd hblock List.not_mem_nil
  | cons hfirst _ ih =>
      rcases List.mem_cons.mp hblock with rfl | hrest
      · exact ⟨_, hfirst, hblank _⟩
      · exact ih hrest

/-- Every block of a class is a member or a method. -/
theorem InOrder.exists_kind (h : InOrder words shape writerName className fields blocks)
    {block : List σ} (hblock : block ∈ blocks) :
    ∃ kind, words.Block kind block ∧ ¬ kind words.blank := by
  rcases h with ⟨members, constructor, readers, writers, rfl, hmembers, hconstructor, hreaders,
    hwriters⟩
  simp only [List.mem_append, List.mem_singleton] at hblock
  rcases hblock with ((hblock | rfl) | hblock) | hblock
  · exact exists_kind_of_forall₂ (fun _ => words.not_isMember_blank _) hmembers hblock
  · exact ⟨_, hconstructor, words.not_isMethod_blank _⟩
  · exact exists_kind_of_forall₂ (fun _ => words.not_isMethod_blank _) hreaders hblock
  · exact exists_kind_of_forall₂ (fun _ => words.not_isMethod_blank _) hwriters hblock

theorem InOrder.block_ne_nil (h : InOrder words shape writerName className fields blocks) :
    ∀ block ∈ blocks, block ≠ [] := by
  intro block hblock
  rcases h.exists_kind hblock with ⟨kind, hkind, _⟩
  exact hkind.ne_nil

theorem InOrder.blank_notMem (h : InOrder words shape writerName className fields blocks) :
    ∀ block ∈ blocks, words.blank ∉ block := by
  intro block hblock
  rcases h.exists_kind hblock with ⟨kind, hkind, hblank⟩
  exact hkind.blank_notMem hblank

/-- The body of a class whose blocks are in order, by either loop. -/
theorem InOrder.laidOut (h : InOrder words shape writerName className fields blocks) :
    LaidOut words.blank blocks (separated words.blank blocks) ∧
      joined words.blank blocks = separated words.blank blocks := by
  refine ⟨?_, joined_eq_separated h.block_ne_nil⟩
  rw [separated_eq_intercalate]
  exact laidOut_intercalate h.block_ne_nil h.blank_notMem

theorem isWriter_writerMethod {write : FieldEntry → String × Expression}
    (hwrite : ∀ entry, (write entry).1 = entry.key) (writerName : String) (fields : List Field)
    (group : Option String) :
    IsWriter writerName fields group
      (writerMethod writerName write ⟨group, fields.flatMap (entriesIn group)⟩) := by
  refine ⟨rfl, rfl, _, rfl, ?_⟩
  rw [List.map_map]
  exact List.map_congr_left fun entry _ => hwrite entry

/-- Blocks made from the views of the fields are in order. -/
theorem inOrder_of_views {memberBlock : Field → List σ} {constructorBlock : List σ}
    {readerBlock : DeserializeView → List σ} {writerBlock : SerializeView → List σ}
    (own : Field → AccessPath) (write : FieldEntry → String × Expression)
    (hmember : ∀ field, words.Block (words.IsMember field) (memberBlock field))
    (hconstructor : words.Block (words.IsMethod (· = shape.constructor own fields))
      constructorBlock)
    (hreader : ∀ view, words.Block (words.IsMethod (· = shape.reader className view))
      (readerBlock view))
    (hwriter : ∀ view, words.Block (words.IsMethod (· = writerMethod writerName write view))
      (writerBlock view))
    (hown : ∀ field, (own field).segments.map Accessor.name = [shape.self, field.name])
    (hwrite : ∀ entry, (write entry).1 = entry.key) :
    InOrder words shape writerName className fields
      (fields.map memberBlock ++ [constructorBlock] ++ (deserializeViews fields).map readerBlock
        ++ (serializeViews fields).map writerBlock) := by
  refine ⟨_, _, _, _, rfl, ?_, ?_, ?_, ?_⟩
  · rw [List.forall₂_map_right_iff, List.forall₂_same]
    exact fun field _ => hmember field
  · exact hconstructor.of_method (isConstructor_constructor hown fields)
  · rw [deserializeViews_eq, List.map_map, List.forall₂_map_right_iff, List.forall₂_same]
    exact fun group _ => (hreader _).of_method (isReader_reader shape className fields group)
  · rw [serializeViews_eq, List.map_map, List.forall₂_map_right_iff, List.forall₂_same]
    exact fun group _ =>
      (hwriter _).of_method (isWriter_writerMethod hwrite writerName fields group)

end Order

end Generate

namespace Php

open Code Spec Generate

/-- The name of a member. -/
def member? : Statement → Option String
  | .member _ name _ => some name
  | _ => none

/-- The body of a class. -/
def classBody? : Statement → Option (List Statement)
  | .classDecl _ members => some members
  | _ => none

/-- How the statements of the grammar are told apart. -/
def vocabulary : Vocabulary Statement where
  blank := .blankLine
  doc := .doc
  member? := member?
  method? := method?
  doc_ne_blank := fun _ heq => by cases heq
  member?_blank := rfl
  method?_blank := rfl

theorem isEmptyDoc_eq (comment : DocComment) : isEmptyDoc comment = comment.isEmpty := rfl

theorem documented_eq (comment : DocComment) (statement : Statement) :
    documented comment statement = vocabulary.documented comment statement := by
  rw [documented, isEmptyDoc_eq]
  rfl

theorem block_documented {kind : Statement → Prop} (comment : DocComment) {statement : Statement}
    (hkind : kind statement) : vocabulary.Block kind (documented comment statement) := by
  rw [documented_eq]
  exact vocabulary.block_documented comment hkind

theorem separateBlocks_eq (blocks : List (List Statement)) :
    separateBlocks blocks = separated vocabulary.blank blocks := by
  cases blocks <;> rfl

/-- The blocks of a generated class are in order. -/
theorem inOrder_classBlocks (className : String) (fields : List Field) :
    InOrder vocabulary shape "toArray" className fields (classBlocks className fields) := by
  refine inOrder_of_views (ownField className) (writeEntry className)
    (fun _ => block_documented _ rfl) (block_documented _ ⟨_, rfl, ?_⟩)
    (fun view => block_documented _ ⟨_, rfl, ?_⟩)
    (fun _ => block_documented _ ⟨_, rfl, rfl⟩)
    (fun _ => rfl) (fun _ => rfl)
  · simp only [List.map_map]
    rfl
  · rw [readSlot_eq]
    rfl

end Php

namespace TypeScript

open Code Spec Generate

/-- The name of a member. -/
def member? : Statement → Option String
  | .member _ name _ => some name
  | _ => none

/-- The body of a class. -/
def classBody? : Statement → Option (List Statement)
  | .classDecl _ _ members => some members
  | _ => none

/-- How the statements of the grammar are told apart. -/
def vocabulary : Vocabulary Statement where
  blank := .blankLine
  doc := .doc
  member? := member?
  method? := method?
  doc_ne_blank := fun _ heq => by cases heq
  member?_blank := rfl
  method?_blank := rfl

theorem isEmptyDoc_eq (comment : DocComment) : isEmptyDoc comment = comment.isEmpty := rfl

theorem documented_eq (comment : DocComment) (statement : Statement) :
    documented comment statement = vocabulary.documented comment statement := by
  rw [documented, isEmptyDoc_eq]
  rfl

theorem block_documented {kind : Statement → Prop} (comment : DocComment) {statement : Statement}
    (hkind : kind statement) : vocabulary.Block kind (documented comment statement) := by
  rw [documented_eq]
  exact vocabulary.block_documented comment hkind

theorem foldl_addBlock_eq (blocks : List (List Statement)) :
    blocks.foldl addBlock [] = joined vocabulary.blank blocks := by
  have hadd : addBlock = appendBlock vocabulary.blank := by
    funext statements block
    cases statements <;> rfl
  rw [hadd, joined]

/-- The blocks of a generated class are in order. -/
theorem inOrder_classBlocks (className : String) (fields : List Field) :
    InOrder vocabulary shape "toObject" className fields (classBlocks className fields) := by
  refine inOrder_of_views (ownField className) (writeEntry className)
    (fun _ => block_documented _ rfl) (block_documented _ ⟨_, rfl, ?_⟩)
    (fun view => ⟨_, ⟨_, rfl, ?_⟩, .inl rfl⟩) (fun _ => ⟨_, ⟨_, rfl, rfl⟩, .inl rfl⟩)
    (fun _ => rfl) (fun _ => rfl)
  · simp only [List.map_map]
    rfl
  · rw [readSlot_eq]
    rfl

end TypeScript

namespace Generate

open Code Spec

/-- The body of the class that is generated from a spec, in either grammar: its
    blocks are in order, with one group for every name, and one empty line
    stands between any two of them. Either loop makes this body of the
    blocks. -/
theorem class_body_in_blocks (spec : Spec) :
    (groupNames spec.fields).Nodup ∧
      (∀ php, spec.php = .ok php →
        outline .php spec = .ok (Php.fileOutline (Php.fileStatements php spec.fields)) ∧
          ∃ blocks body,
            (Php.fileStatements php spec.fields).filterMap Php.classBody? = [body] ∧
              InOrder Php.vocabulary Php.shape "toArray" php.className spec.fields blocks ∧
              LaidOut .blankLine blocks body ∧
              Php.separateBlocks blocks = body ∧ joined .blankLine blocks = body) ∧
      ∀ ts, spec.ts = .ok ts →
        outline .ts spec
            = .ok (TypeScript.fileOutline (TypeScript.fileStatements ts spec.fields)) ∧
          ∃ blocks body,
            (TypeScript.fileStatements ts spec.fields).filterMap TypeScript.classBody? = [body] ∧
              InOrder TypeScript.vocabulary TypeScript.shape "toObject" ts.className spec.fields
                blocks ∧
              LaidOut .blankLine blocks body ∧
              blocks.foldl TypeScript.addBlock [] = body ∧ separated .blankLine blocks = body := by
  refine ⟨nodup_eraseDups _, ?_, ?_⟩
  · intro php hphp
    have hblocks := Php.inOrder_classBlocks php.className spec.fields
    have hbody := Php.separateBlocks_eq (Php.classBlocks php.className spec.fields)
    refine ⟨outline_php hphp, _, _, rfl, hblocks, ?_, rfl, ?_⟩
    · rw [hbody]
      exact hblocks.laidOut.1
    · rw [hbody]
      exact hblocks.laidOut.2
  · intro ts hts
    have hblocks := TypeScript.inOrder_classBlocks ts.className spec.fields
    have hbody := TypeScript.foldl_addBlock_eq (TypeScript.classBlocks ts.className spec.fields)
    rw [hblocks.laidOut.2] at hbody
    refine ⟨outline_ts hts, _, _, rfl, hblocks, ?_, rfl, hbody.symm⟩
    rw [hbody]
    exact hblocks.laidOut.1

/-- A field with a remark and tags of two groups, and one with neither. -/
theorem class_body_in_blocks_two_groups :
    let fields : List Field :=
      [ ⟨"id", "integer", some "Key.", [⟨"row", "i"⟩, ⟨"api", "id"⟩]⟩, .plain "note" "string" ]
    let spec : Spec := ⟨"out", ⟨some ⟨"App", "Item"⟩, some ⟨"Item"⟩⟩, fields⟩
    spec.php = .ok ⟨"App", "Item"⟩ ∧ spec.ts = .ok ⟨"Item"⟩ ∧
      (∃ blocks body,
        (Php.fileStatements ⟨"App", "Item"⟩ fields).filterMap Php.classBody? = [body] ∧
          InOrder Php.vocabulary Php.shape "toArray" "Item" fields blocks ∧
          LaidOut .blankLine blocks body ∧
          Php.separateBlocks blocks = body ∧ joined .blankLine blocks = body) ∧
      ∃ blocks body,
        (TypeScript.fileStatements ⟨"Item"⟩ fields).filterMap TypeScript.classBody? = [body] ∧
          InOrder TypeScript.vocabulary TypeScript.shape "toObject" "Item" fields blocks ∧
          LaidOut .blankLine blocks body ∧
          blocks.foldl TypeScript.addBlock [] = body ∧ separated .blankLine blocks = body := by
  intro fields spec
  exact ⟨rfl, rfl, ((class_body_in_blocks spec).2.1 ⟨"App", "Item"⟩ rfl).2,
    ((class_body_in_blocks spec).2.2 ⟨"Item"⟩ rfl).2⟩

end Generate

end ClassForge
