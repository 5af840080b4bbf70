import ClassForge.Json.Value

/-!
# Written Values

A value is written compactly and read again by two machines, one that divides
characters into tokens and one that puts tokens together. Each of them carries
what it has seen so far, so what is proved of it is proved below whatever it has
seen: a written value adds its own tokens to those already found, and its tokens
give its document inside the containers still open.

Only a number makes trouble for the first machine, since nothing ends it but the
next character. The reader is therefore allowed to be inside the last number of
what it has found, and the punctuation behind a value ends it.

A written string is spelled in one way, by `Spelling.ofText`, and that spelling
stands for the string again.

## Main definitions

* `Spelling.ofText`, `Data.spelled`: How strings and values are spelled when they
  are written.
* `Data.tokens`: The tokens of a written value.
* `Data.Readable`: Values whose numbers are numbers in range and that are not
  nested too deeply.
* `Lexes`: Characters that are divided into some tokens wherever they stand.

## Theorems

* `lexes_chars`: A written value is divided into its tokens.
* `foldlM_tokens`: The tokens of a value are put together again.
* `document?_of_readable`: A written value is read as the document that spells it.
* `value?_write`: Reading undoes writing.
-/

namespace ClassForge

namespace Json

/-- How a character is spelled in a written string: by its number if it has neither a
    form nor an escape of its own, and as itself otherwise. -/
def Piece.ofChar (c : Char) : Piece :=
  if c.toNat < 0x20 ∧ c ∉ [Char.ofNat 8, '\t', '\n', Char.ofNat 12, '\r'] then .unit c.toNat
  else .char c

/-- How a text is spelled in a written string. -/
def Spelling.ofText (text : String) : Spelling := text.toList.map Piece.ofChar

mutual

/-- The document that a written value is read as. -/
def Data.spelled : Value → Document
  | .null => .null
  | .bool value => .bool value
  | .number literal => .number literal
  | .string text => .string (Spelling.ofText text)
  | .array items => .array (Data.allSpelled items)
  | .object members => .object (Data.membersSpelled members)

/-- The documents that written items are read as. -/
def Data.allSpelled : List Value → List Document
  | [] => []
  | item :: items => item.spelled :: Data.allSpelled items

/-- What a written member is read as. -/
def Data.memberSpelled : Member String → Member Spelling
  | .member key value => .member (Spelling.ofText key) value.spelled

/-- What written members are read as. -/
def Data.membersSpelled : List (Member String) → List (Member Spelling)
  | [] => []
  | member :: members => Data.memberSpelled member :: Data.membersSpelled members

end

mutual

/-- The tokens of a written value. -/
def Data.tokens : Value → List Token
  | .null => [.null]
  | .bool value => [.bool value]
  | .number literal => [.number literal]
  | .string text => [.string (Spelling.ofText text)]
  | .array items => .openArray :: (Data.itemsTokens items ++ [.closeArray])
  | .object members => .openObject :: (Data.membersTokens members ++ [.closeObject])

/-- The tokens of written items. -/
def Data.itemsTokens : List Value → List Token
  | [] => []
  | [item] => item.tokens
  | item :: items => item.tokens ++ .comma :: Data.itemsTokens items

/-- The tokens of a written member. -/
def Data.memberTokens : Member String → List Token
  | .member key value => .string (Spelling.ofText key) :: .colon :: value.tokens

/-- The tokens of written members. -/
def Data.membersTokens : List (Member String) → List Token
  | [] => []
  | [member] => Data.memberTokens member
  | member :: members => Data.memberTokens member ++ .comma :: Data.membersTokens members

end

/-- Characters that are a number from the first to the last. -/
def IsNumber (literal : List Char) : Prop :=
  ∃ c rest part last, literal = c :: rest ∧ NumberPart.start? c = some part ∧
    rest.foldlM NumberPart.next? part = some last ∧ last.isComplete = true

/-- A value whose numbers are numbers in range and that is nested at most `depth` deep. -/
inductive Data.Readable : Value → (depth : Nat) → Prop where
  | null (depth : Nat) : Data.Readable .null depth
  | bool (value : Bool) (depth : Nat) : Data.Readable (.bool value) depth
  | number {literal : List Char} (h : IsNumber literal) (hrange : isInRange literal = true)
      (depth : Nat) : Data.Readable (.number literal) depth
  | string (text : String) (depth : Nat) : Data.Readable (.string text) depth
  | array {items : List Value} {depth : Nat} (h : ∀ item ∈ items, Data.Readable item depth) :
      Data.Readable (.array items) (depth + 1)
  | object {members : List (Member String)} {depth : Nat}
      (h : ∀ member ∈ members, Data.Readable member.value depth) :
      Data.Readable (.object members) (depth + 1)

namespace Lexer

/-- The reader has found these tokens. It may still be inside the last of them if that is
    a number, which only the next character ends. -/
inductive Found : Lexer → List Token → Prop where
  | idle (found : List Token) : Found ⟨found, .idle⟩ found
  | number (found : List Token) {part : NumberPart} (hpart : part.isComplete = true)
      (read : List Char) : Found ⟨found, .number part read⟩ (.number read.reverse :: found)

theorem cases_of_punctuation {c : Char} {token : Token} (h : punctuation? c = some token) :
    c = '[' ∨ c = ']' ∨ c = '\x7b' ∨ c = '\x7d' ∨ c = ':' ∨ c = ',' := by
  unfold punctuation? at h
  grind

theorem next?_of_punctuation {c : Char} {token : Token} (h : punctuation? c = some token)
    (part : NumberPart) : part.next? c = none := by
  rcases cases_of_punctuation h with rfl | rfl | rfl | rfl | rfl | rfl <;> cases part <;> rfl

theorem stepIdle_of_punctuation {c : Char} {token : Token} (h : punctuation? c = some token)
    (found : List Token) : stepIdle found c = some ⟨token :: found, .idle⟩ := by
  have hplain : isBlank c = false ∧ c ≠ '"' := by
    rcases cases_of_punctuation h with rfl | rfl | rfl | rfl | rfl | rfl <;> decide
  rw [stepIdle, hplain.1, if_neg Bool.false_ne_true, if_neg hplain.2, h]

theorem stepIdle_of_start {c : Char} {part : NumberPart} (h : NumberPart.start? c = some part)
    (found : List Token) : stepIdle found c = some ⟨found, .number part [c]⟩ := by
  -- No character that means anything else starts a number.
  have hall : [' ', '\t', '\n', '\r', '"', '[', ']', '\x7b', '\x7d', ':', ',', 'n', 't', 'f'].all
      (fun d => NumberPart.start? d = none) = true := by decide
  have hne : ∀ d ∈ [' ', '\t', '\n', '\r', '"', '[', ']', '\x7b', '\x7d', ':', ',', 'n', 't',
      'f'], c ≠ d := by
    rintro d hd rfl
    have hnone := List.all_eq_true.mp hall c hd
    rw [h] at hnone
    cases hnone
  simp only [List.forall_mem_cons, List.not_mem_nil, false_imp_iff, implies_true, and_true] at hne
  simp only [stepIdle, isBlank, punctuation?, word?, hne, decide_false, Bool.or_self,
    Bool.false_eq_true, if_false, h]

theorem Found.step {lexer : Lexer} {found : List Token} (hfound : lexer.Found found) {c : Char}
    {token : Token} (h : punctuation? c = some token) :
    lexer.step c = some ⟨token :: found, .idle⟩ := by
  cases hfound with
  | idle => exact stepIdle_of_punctuation h found
  | number found hpart read =>
      rw [Lexer.step, next?_of_punctuation h, if_pos hpart]
      exact stepIdle_of_punctuation h _

theorem Found.finish {lexer : Lexer} {found : List Token} (hfound : lexer.Found found) :
    lexer.finish = some found.reverse := by
  cases hfound with
  | idle => rfl
  | number found hpart read => rw [Lexer.finish, if_pos hpart]

end Lexer

/-- Characters that are divided into these tokens wherever they stand. -/
def Lexes (chars : List Char) (tokens : List Token) : Prop :=
  ∀ found, ∃ lexer, chars.foldlM Lexer.step ⟨found, .idle⟩ = some lexer ∧
    lexer.Found (tokens.reverse ++ found)

namespace Lexes

theorem nil : Lexes [] [] := fun found => ⟨_, rfl, .idle found⟩

/-- Two texts with a punctuation mark between them. -/
theorem punctuated {before after : List Char} {earlier later : List Token} {c : Char}
    {token : Token} (h : Lexes before earlier) (hc : Lexer.punctuation? c = some token)
    (h' : Lexes after later) : Lexes (before ++ c :: after) (earlier ++ token :: later) := by
  intro found
  rcases h found with ⟨lexer, hrun, hfound⟩
  rcases h' (token :: (earlier.reverse ++ found)) with ⟨last, hlast, hlastFound⟩
  refine ⟨last, ?_, ?_⟩
  · rw [List.foldlM_append, hrun]
    change (c :: after).foldlM Lexer.step lexer = _
    rw [List.foldlM_cons, hfound.step hc]
    exact hlast
  · rw [List.reverse_append, List.reverse_cons, List.append_assoc, List.append_assoc]
    exact hlastFound

theorem enclosed {inside : List Char} {tokens : List Token} {opening closing : Char}
    {first last : Token} (hopening : Lexer.punctuation? opening = some first)
    (h : Lexes inside tokens) (hclosing : Lexer.punctuation? closing = some last) :
    Lexes (opening :: inside ++ [closing]) (first :: (tokens ++ [last])) :=
  nil.punctuated hopening (h.punctuated hclosing nil)

theorem null : Lexes "null".toList [.null] := fun _ => ⟨_, rfl, .idle _⟩

theorem bool (value : Bool) :
    Lexes (if value then "true".toList else "false".toList) [.bool value] := by
  cases value with
  | true => exact fun _ => ⟨_, rfl, .idle _⟩
  | false => exact fun _ => ⟨_, rfl, .idle _⟩

theorem number {literal : List Char} (h : IsNumber literal) : Lexes literal [.number literal] := by
  rcases h with ⟨c, rest, part, last, rfl, hstart, hrest, hlast⟩
  intro found
  -- Every further character continues the number.
  have hrun : ∀ (rest : List Char) (part : NumberPart) (read : List Char),
      rest.foldlM NumberPart.next? part = some last →
      rest.foldlM Lexer.step ⟨found, .number part read⟩
        = some ⟨found, .number last (rest.reverse ++ read)⟩ := by
    intro rest
    induction rest with
    | nil =>
        intro part read h
        cases h
        rfl
    | cons c rest ih =>
        intro part read h
        rw [List.foldlM_cons] at h ⊢
        rcases Option.bind_eq_some_iff.mp h with ⟨next, hnext, h⟩
        rw [Lexer.step, hnext, List.reverse_cons, List.append_assoc]
        exact ih next (c :: read) h
  have hfirst : Lexer.stepIdle found c = some ⟨found, .number part [c]⟩ :=
    Lexer.stepIdle_of_start hstart found
  refine ⟨⟨found, .number last (rest.reverse ++ [c])⟩, ?_, ?_⟩
  · rw [List.foldlM_cons]
    change Option.bind (Lexer.stepIdle found c) _ = _
    rw [hfirst]
    exact hrun rest part [c] hrest
  · have hread : (rest.reverse ++ [c]).reverse = c :: rest := by
      rw [List.reverse_append, List.reverse_reverse]
      rfl
    have hnumber := Lexer.Found.number found hlast (rest.reverse ++ [c])
    rwa [hread] at hnumber

end Lexes

theorem hexDigit?_hexChar : ∀ digit < 16, hexDigit? (hexChar digit) = some digit := by decide

/-- A written character is read as one piece of the string it stands in. -/
theorem foldlM_writeChar (found : List Token) (read : Spelling) (c : Char) :
    (writeChar c).foldlM Lexer.step ⟨found, .string read⟩
      = some ⟨found, .string (Piece.ofChar c :: read)⟩ := by
  -- First the characters that have a short escape of their own.
  by_cases hshort : c ∈ ['"', '\\', Char.ofNat 8, '\t', '\n', Char.ofNat 12, '\r']
  · simp only [List.mem_cons, List.not_mem_nil, or_false] at hshort
    rcases hshort with rfl | rfl | rfl | rfl | rfl | rfl | rfl <;> rfl
  simp only [List.mem_cons, List.not_mem_nil, or_false, not_or] at hshort
  rcases hshort with ⟨hquote, hslash, hback, htab, hfeed, hform, hreturn⟩
  rw [writeChar, if_neg hquote, if_neg hslash, if_neg hback, if_neg htab, if_neg hfeed,
    if_neg hform, if_neg hreturn]
  by_cases hcontrol : c.toNat < 0x20
  · -- A control character without an escape of its own is spelled by its number.
    have hpiece : Piece.ofChar c = .unit c.toNat := by
      rw [Piece.ofChar, if_pos]
      simp only [hcontrol, List.mem_cons, hback, htab, hfeed, hform, hreturn, List.not_mem_nil,
        or_self, not_false_eq_true, and_self]
    have hvalue : hexValue [0, 0, c.toNat / 16, c.toNat % 16] = c.toNat := by
      simp only [hexValue, List.foldl_cons, List.foldl_nil]
      omega
    have hhigh := hexDigit?_hexChar (c.toNat / 16) (by omega)
    have hlow := hexDigit?_hexChar (c.toNat % 16) (by omega)
    rw [if_pos hcontrol, hpiece]
    change Option.bind (Lexer.step ⟨found, .unit read [0, 0]⟩ (hexChar (c.toNat / 16))) _ = _
    rw [Lexer.step, hhigh]
    change Option.bind (Lexer.step ⟨found, .unit read [0, 0, c.toNat / 16]⟩ _) _ = _
    rw [Lexer.step, hlow]
    change some (⟨found, .string (.unit (hexValue [0, 0, _, _]) :: read)⟩ : Lexer) = _
    rw [hvalue]
  · have hpiece : Piece.ofChar c = .char c := by
      rw [Piece.ofChar, if_neg]
      exact fun h => hcontrol h.1
    rw [if_neg hcontrol, hpiece, List.foldlM_cons, Lexer.step, if_neg hquote, if_neg hslash,
      if_neg hcontrol]
    rfl

theorem Lexes.string (text : String) :
    Lexes (writeString text) [.string (Spelling.ofText text)] := by
  intro found
  -- What has been read so far is kept in reverse, so it has to be a part of the induction.
  have hrun : ∀ (chars : List Char) (read : Spelling),
      (chars.flatMap writeChar).foldlM Lexer.step ⟨found, .string read⟩
        = some ⟨found, .string ((chars.map Piece.ofChar).reverse ++ read)⟩ := by
    intro chars
    induction chars with
    | nil => exact fun _ => rfl
    | cons c chars ih =>
        intro read
        rw [List.flatMap_cons, List.foldlM_append, foldlM_writeChar, List.map_cons,
          List.reverse_cons, List.append_assoc]
        exact ih (Piece.ofChar c :: read)
  refine ⟨⟨.string (Spelling.ofText text) :: found, .idle⟩, ?_, .idle _⟩
  have hopened : ('"' :: text.toList.flatMap writeChar).foldlM Lexer.step ⟨found, .idle⟩
      = (text.toList.flatMap writeChar).foldlM Lexer.step ⟨found, .string []⟩ := rfl
  rw [writeString, List.foldlM_append, hopened, hrun, List.append_nil]
  have hclosed : (['"'] : List Char).foldlM Lexer.step
        ⟨found, .string (text.toList.map Piece.ofChar).reverse⟩
      = some ⟨.string (text.toList.map Piece.ofChar).reverse.reverse :: found, .idle⟩ := rfl
  rw [List.reverse_reverse] at hclosed
  exact hclosed

mutual

/-- A written value is divided into its tokens. -/
theorem lexes_chars : (value : Value) → {depth : Nat} → value.Readable depth →
    Lexes value.chars value.tokens
  | .null, _, _ => Lexes.null
  | .bool value, _, _ => Lexes.bool value
  | .number _, _, .number h _ _ => Lexes.number h
  | .string text, _, _ => Lexes.string text
  | .array items, _, .array h => Lexes.enclosed rfl (lexes_itemsChars items h) rfl
  | .object members, _, .object h => Lexes.enclosed rfl (lexes_membersChars members h) rfl

theorem lexes_itemsChars : (items : List Value) → {depth : Nat} →
    (∀ item ∈ items, item.Readable depth) →
    Lexes (Data.itemsChars items) (Data.itemsTokens items)
  | [], _, _ => Lexes.nil
  | [item], _, h => lexes_chars item (h item List.mem_cons_self)
  | item :: next :: items, _, h =>
    (lexes_chars item (h item List.mem_cons_self)).punctuated rfl
      (lexes_itemsChars (next :: items) fun other hother => h other (List.mem_cons_of_mem _ hother))

theorem lexes_memberChars : (member : Member String) → {depth : Nat} →
    member.value.Readable depth → Lexes (Data.memberChars member) (Data.memberTokens member)
  | .member key value, _, h => (Lexes.string key).punctuated rfl (lexes_chars value h)

theorem lexes_membersChars : (members : List (Member String)) → {depth : Nat} →
    (∀ member ∈ members, member.value.Readable depth) →
    Lexes (Data.membersChars members) (Data.membersTokens members)
  | [], _, _ => Lexes.nil
  | [member], _, h => lexes_memberChars member (h member List.mem_cons_self)
  | member :: next :: members, _, h =>
    (lexes_memberChars member (h member List.mem_cons_self)).punctuated rfl
      (lexes_membersChars (next :: members) fun other hother =>
        h other (List.mem_cons_of_mem _ hother))

end

theorem tokens?_chars {value : Value} {depth : Nat} (h : value.Readable depth) :
    tokens? value.chars = some value.tokens := by
  rcases lexes_chars value h [] with ⟨lexer, hrun, hfound⟩
  have hfinish := hfound.finish
  rw [List.append_nil, List.reverse_reverse] at hfinish
  rw [tokens?, Lexer.start, hrun]
  exact hfinish

theorem itemsTokens_cons_cons (item next : Value) (items : List Value) :
    Data.itemsTokens (item :: next :: items)
      = item.tokens ++ .comma :: Data.itemsTokens (next :: items) := by
  rw [Data.itemsTokens]
  exact List.cons_ne_nil _ _

theorem membersTokens_cons_cons (member next : Member String) (members : List (Member String)) :
    Data.membersTokens (member :: next :: members)
      = Data.memberTokens member ++ .comma :: Data.membersTokens (next :: members) := by
  rw [Data.membersTokens]
  exact List.cons_ne_nil _ _

-- No value starts with a closing bracket, so a first item is read like any other.
theorem foldlM_firstItem (value : Value) (rest : List Token) (stack : List Container) :
    (value.tokens ++ rest).foldlM Reader.step (.firstItem stack)
      = (value.tokens ++ rest).foldlM Reader.step (.value (.array [] :: stack)) := by
  cases value <;> rfl

-- A first key is read like any other.
theorem foldlM_firstKey (member : Member String) (rest : List Token) (stack : List Container) :
    (Data.memberTokens member ++ rest).foldlM Reader.step (.firstKey stack)
      = (Data.memberTokens member ++ rest).foldlM Reader.step (.key [] stack) := by
  cases member
  rfl

theorem memberSpelled_eq (member : Member String) :
    Data.memberSpelled member = .member (Spelling.ofText member.key) member.value.spelled := by
  cases member
  rw [Data.memberSpelled]
  rfl

mutual

/-- The tokens of a value are put together again below whatever is still open. -/
theorem foldlM_tokens : (value : Value) → (stack : List Container) →
    value.tokens.foldlM Reader.step (.value stack) = some (.after value.spelled stack)
  | .null, _ => rfl
  | .bool _, _ => rfl
  | .number _, _ => rfl
  | .string _, _ => rfl
  | .array [], _ => rfl
  | .array (item :: items), stack => by
    have hfirst : (Data.itemsTokens (item :: items) ++ [Token.closeArray]).foldlM Reader.step
          (.firstItem stack)
        = (Data.itemsTokens (item :: items) ++ [Token.closeArray]).foldlM Reader.step
          (.value (.array [] :: stack)) := by
      cases items with
      | nil => exact foldlM_firstItem item _ stack
      | cons next items =>
          rw [itemsTokens_cons_cons, List.append_assoc]
          exact foldlM_firstItem item _ stack
    exact hfirst.trans (foldlM_itemsTokens (item :: items) (List.cons_ne_nil _ _) [] stack)
  | .object [], _ => rfl
  | .object (member :: members), stack => by
    have hfirst : (Data.membersTokens (member :: members) ++ [Token.closeObject]).foldlM
          Reader.step (.firstKey stack)
        = (Data.membersTokens (member :: members) ++ [Token.closeObject]).foldlM Reader.step
          (.key [] stack) := by
      cases members with
      | nil => exact foldlM_firstKey member _ stack
      | cons next members =>
          rw [membersTokens_cons_cons, List.append_assoc]
          exact foldlM_firstKey member _ stack
    exact hfirst.trans (foldlM_membersTokens (member :: members) (List.cons_ne_nil _ _) [] stack)

theorem foldlM_itemsTokens : (items : List Value) → items ≠ [] → (before : List Document) →
    (stack : List Container) →
    (Data.itemsTokens items ++ [Token.closeArray]).foldlM Reader.step
        (.value (.array before :: stack))
      = some (.after (.array (before.reverse ++ Data.allSpelled items)) stack)
  | [item], _, before, stack => by
    rw [Data.itemsTokens, List.foldlM_append, foldlM_tokens item]
    change some (Reader.after (.array (item.spelled :: before).reverse) stack) = _
    rw [List.reverse_cons]
    rfl
  | item :: next :: items, _, before, stack => by
    have hrest := foldlM_itemsTokens (next :: items) (List.cons_ne_nil _ _)
      (item.spelled :: before) stack
    rw [List.reverse_cons, List.append_assoc] at hrest
    rw [itemsTokens_cons_cons, List.append_assoc, List.foldlM_append, foldlM_tokens item]
    exact hrest

theorem foldlM_memberTokens : (member : Member String) → (before : List (Member Spelling)) →
    (stack : List Container) →
    (Data.memberTokens member).foldlM Reader.step (.key before stack)
      = some (.after member.value.spelled (.object before (Spelling.ofText member.key) :: stack))
  | .member key value, before, stack =>
    foldlM_tokens value (.object before (Spelling.ofText key) :: stack)

theorem foldlM_membersTokens : (members : List (Member String)) → members ≠ [] →
    (before : List (Member Spelling)) → (stack : List Container) →
    (Data.membersTokens members ++ [Token.closeObject]).foldlM Reader.step (.key before stack)
      = some (.after (.object (before.reverse ++ Data.membersSpelled members)) stack)
  | [member], _, before, stack => by
    rw [Data.membersTokens, List.foldlM_append, foldlM_memberTokens member]
    change some (Reader.after (.object (.member _ _ :: before).reverse) stack) = _
    rw [List.reverse_cons, Data.membersSpelled, memberSpelled_eq]
    rfl
  | member :: next :: members, _, before, stack => by
    have hrest := foldlM_membersTokens (next :: members) (List.cons_ne_nil _ _)
      (Data.memberSpelled member :: before) stack
    rw [List.reverse_cons, List.append_assoc, memberSpelled_eq] at hrest
    rw [membersTokens_cons_cons, List.append_assoc, List.foldlM_append,
      foldlM_memberTokens member, Data.membersSpelled, memberSpelled_eq]
    exact hrest

end

/-- A written value is read as the document that spells it. -/
theorem document?_of_readable {value : Value} {depth : Nat} (h : value.Readable depth) :
    document? value.write = some value.spelled := by
  rw [document?_write, tokens?_chars h]
  change (value.tokens.foldlM Reader.step (.value [])).bind _ = _
  rw [foldlM_tokens value]
  rfl

theorem chars?_ofChar (c : Char) (rest : Spelling) :
    Spelling.chars? (Piece.ofChar c :: rest) = (Spelling.chars? rest).map (c :: ·) := by
  unfold Piece.ofChar
  split
  · rename_i hcontrol
    rcases hcontrol with ⟨hcontrol, -⟩
    -- A control character is no half of a pair, so its number stands for it alone.
    have hhigh : isHighHalf c.toNat = false := by
      simp only [isHighHalf, Bool.and_eq_false_imp, decide_eq_true_eq, decide_eq_false_iff_not]
      omega
    have hlow : isLowHalf c.toNat = false := by
      simp only [isLowHalf, Bool.and_eq_false_imp, decide_eq_true_eq, decide_eq_false_iff_not]
      omega
    conv =>
      lhs
      unfold Spelling.chars?
    simp only [hhigh, hlow, Bool.false_eq_true, if_false, Char.ofNat_toNat]
  · rfl

theorem text?_ofText (text : String) : Spelling.text? (Spelling.ofText text) = some text := by
  have hchars : ∀ chars : List Char, Spelling.chars? (chars.map Piece.ofChar) = some chars := by
    intro chars
    induction chars with
    | nil => rfl
    | cons c chars ih => rw [List.map_cons, chars?_ofChar, ih, Option.map_some]
  rw [Spelling.text?, Spelling.ofText, hchars, Option.map_some, String.ofList_toList]

mutual

theorem valueWithin?_spelled : (value : Value) → {depth : Nat} → value.Readable depth →
    value.spelled.valueWithin? depth = some value
  | .null, _, _ => rfl
  | .bool _, _, _ => rfl
  | .number literal, _, .number _ hrange _ => by
    rw [Data.spelled, Data.valueWithin?, if_pos hrange]
  | .string text, _, _ => by
    rw [Data.spelled, Data.valueWithin?, text?_ofText]
    rfl
  | .array items, _, .array h => by
    rw [Data.spelled, Data.valueWithin?, valuesWithin?_allSpelled items h]
    rfl
  | .object members, _, .object h => by
    rw [Data.spelled, Data.valueWithin?, membersWithin?_membersSpelled members h]
    rfl

theorem valuesWithin?_allSpelled : (items : List Value) → {depth : Nat} →
    (∀ item ∈ items, item.Readable depth) →
    Data.valuesWithin? (Data.allSpelled items) depth = some items
  | [], _, _ => rfl
  | item :: items, _, h => by
    rcases List.forall_mem_cons.mp h with ⟨hitem, hitems⟩
    rw [Data.allSpelled, Data.valuesWithin?, valueWithin?_spelled item hitem,
      valuesWithin?_allSpelled items hitems]
    rfl

theorem memberWithin?_memberSpelled : (member : Member String) → {depth : Nat} →
    member.value.Readable depth →
    Data.memberWithin? (Data.memberSpelled member) depth = some member
  | .member key value, _, h => by
    rw [Data.memberSpelled, Data.memberWithin?, text?_ofText, valueWithin?_spelled value h]
    rfl

theorem membersWithin?_membersSpelled : (members : List (Member String)) → {depth : Nat} →
    (∀ member ∈ members, member.value.Readable depth) →
    Data.membersWithin? (Data.membersSpelled members) depth = some members
  | [], _, _ => rfl
  | member :: members, _, h => by
    rcases List.forall_mem_cons.mp h with ⟨hmember, hmembers⟩
    rw [Data.membersSpelled, Data.membersWithin?, memberWithin?_memberSpelled member hmember,
      membersWithin?_membersSpelled members hmembers]
    rfl

end

/-- Reading undoes writing. -/
theorem value?_write {value : Value} (h : value.Readable maxDepth) :
    value? value.write = some value := by
  rw [value?, document?_of_readable h]
  exact valueWithin?_spelled value h

end Json

end ClassForge
