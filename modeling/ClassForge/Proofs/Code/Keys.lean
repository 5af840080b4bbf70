import ClassForge.Proofs.Text.Boundaries
import ClassForge.Proofs.Code.Onlookers

/-!
# Keys of Dictionaries

A dictionary literal puts its keys between quotes, as they are. A key may hold quotes
itself, and then it can look like several entries: with the key `a" => null, "b` a PHP
dictionary reads as if it had the keys `a` and `b`.

To do so a key has to end its own entry, so it holds a quote, the sign behind keys and a
value. Keys that do not hold the end of an entry can be told apart. The end starts with a
quote and holds no other, hence it cannot begin in a key and go on behind it, and the
first end of an entry in the text is the one behind the first key.

## Main definitions

* `Dialect.nullEntry`: An entry with a null value, written down.
* `Dialect.entryEnd`: What stands behind the key of such an entry.
* `Dialect.Ends`: Keys that hold the end of an entry.
* `Dialect.Telling`: Dialects whose dictionaries can be read.

## Theorems

* `Dialect.told_nullEntry`: Single entries.
* `Dialect.intercalate_inj`: Entries one after another.
* `Dialect.inside_inj`: Entries in a literal, on one line or on several.
* `dictionary_keys_eq`: Dictionaries with the same text have the same keys.
* `keys_look_like_entries`: Dictionaries with the same text and other keys.
-/

namespace ClassForge

namespace Code

open Print

/-- Elements on several lines: a lead in front of them all, and one in every separator. -/
theorem Literal.inside_of_wraps {elements : List String} (h : Wraps elements) (lead : String) :
    inside lead elements
      = "\n" ++ (lead ++ (",\n" ++ lead).intercalate elements) ++ "\n" := by
  have hne : elements ≠ [] := by
    rintro rfl
    exact absurd h (by decide)
  rw [inside, if_pos h, Php.lead_append_intercalate lead hne]

namespace Dialect

/-- An entry with a null value, written down. -/
def nullEntry (dialect : Dialect) (key : String) : String :=
  keyText dialect true (some key) ++ "null"

/-- What stands behind the key of an entry with a null value. -/
def entryEnd (dialect : Dialect) : List Char :=
  '"' :: (dialect.keySign.toList ++ "null".toList)

/-- A key that holds the end of an entry. -/
def Ends (dialect : Dialect) (key : String) : Prop := dialect.entryEnd <:+: key.toList

instance (dialect : Dialect) (key : String) : Decidable (dialect.Ends key) :=
  inferInstanceAs (Decidable (dialect.entryEnd <:+: key.toList))

variable {dialect : Dialect}

theorem toList_nullEntry (key : String) :
    (dialect.nullEntry key).toList = '"' :: (key.toList ++ dialect.entryEnd) := by
  simp only [nullEntry, keyText, if_true, String.toList_append, entryEnd, List.append_assoc]
  rfl

/-- The text of a dictionary of null values. -/
theorem expressionText_dictionary_null (lead : String) (keys : List String) :
    expressionText dialect lead (.dictionary (keys.map (·, .null)))
      = dialect.opening true ++ Literal.inside lead (keys.map dialect.nullEntry)
        ++ dialect.closing true := by
  have helements : ∀ keys : List String,
      elementTexts dialect lead true
        ((keys.map fun key => (key, Expression.null)).map
          fun entry => .entry (some entry.1) entry.2)
        = keys.map dialect.nullEntry := by
    intro keys
    induction keys with
    | nil => rw [List.map_nil, List.map_nil, List.map_nil, elementTexts]
    | cons key keys ih =>
        rw [List.map_cons, List.map_cons, List.map_cons, elementTexts, ih, elementText,
          Expression.null, expressionText, nullEntry]
  rw [Expression.dictionary, expressionText, ← helements]

/-- Entries can be told apart whatever follows them, if their keys hold no end. -/
theorem told_nullEntry (hsign : '"' ∉ dialect.keySign.toList) {key other : String}
    (hkey : ¬ dialect.Ends key) (hother : ¬ dialect.Ends other) :
    Text.Told dialect.nullEntry (fun _ => True) key other := by
  intro rest later _ _ h
  have htail : '"' ∉ dialect.keySign.toList ++ "null".toList := by
    simpa [List.mem_append] using hsign
  simp only [toList_nullEntry, entryEnd, List.cons_append, List.append_assoc, List.cons.injEq,
    true_and] at h
  rw [← List.append_assoc dialect.keySign.toList, ← List.append_assoc dialect.keySign.toList] at h
  rcases Text.append_mark_inj htail hkey hother h with ⟨hkeys, hrest⟩
  exact ⟨String.toList_inj.mp hkeys, hrest⟩

/-- Entries start with a quote if there are any. -/
theorem head?_intercalate_nullEntry (separator : String) (keys : List String)
    (closing : List Char) :
    ((separator.intercalate (keys.map dialect.nullEntry)).toList ++ closing).head?
      = if keys = [] then closing.head? else some '"' := by
  cases keys with
  | nil => rfl
  | cons key keys =>
      rw [List.map_cons, Text.toList_intercalate_cons, toList_nullEntry,
        if_neg (List.cons_ne_nil _ _)]
      rfl

/-- Entries with separators between them, and what closes them. -/
theorem intercalate_inj (hsign : '"' ∉ dialect.keySign.toList) {separator : String}
    {gap closing : List Char} (hseparator : separator.toList = ',' :: gap)
    (hcomma : closing.head? ≠ some ',') (hquote : closing.head? ≠ some '"')
    {keys others : List String}
    (hkeys : ∀ key ∈ keys, ¬ dialect.Ends key) (hothers : ∀ key ∈ others, ¬ dialect.Ends key)
    (h : (separator.intercalate (keys.map dialect.nullEntry)).toList ++ closing
      = (separator.intercalate (others.map dialect.nullEntry)).toList ++ closing) :
    keys = others := by
  have hstarts : ∀ key ∈ keys ++ others, ∀ rest,
      ((dialect.nullEntry key).toList ++ rest).head? ≠ closing.head? := by
    intro key _ rest
    rw [toList_nullEntry]
    exact hquote.symm
  exact (Text.intercalate_append_inj (fun _ => trivial) hseparator
    (fun key hkey other hother => told_nullEntry hsign (hkeys key hkey) (hothers other hother))
    ⟨trivial, trivial, rfl, hcomma⟩ hstarts h).1

/-- The signs of a grammar can be told from what stands in a dictionary. -/
structure Telling (dialect : Dialect) : Prop where
  /-- The sign behind keys holds no quote. -/
  quote_notMem : '"' ∉ dialect.keySign.toList
  /-- A dictionary closes with nothing that goes on with entries. -/
  closing_head : (dialect.closing true).toList.head? ∉ [some ',', some '"', some '\n']

/-- A literal on several lines goes on with a line feed, which entries never start with. -/
theorem head?_inside_eq_lineFeed_iff (htelling : dialect.Telling) (lead : String)
    (keys : List String) :
    (Literal.inside lead (keys.map dialect.nullEntry) ++ dialect.closing true).toList.head?
        = some '\n' ↔ Literal.Wraps (keys.map dialect.nullEntry) := by
  by_cases hwraps : Literal.Wraps (keys.map dialect.nullEntry)
  · simp only [Literal.inside_of_wraps hwraps, hwraps, iff_true, String.append_assoc]
    rw [String.toList_append]
    rfl
  · rw [Literal.inside_of_not_wraps hwraps, String.toList_append, head?_intercalate_nullEntry]
    have hclosing : (dialect.closing true).toList.head? ≠ some '\n' := fun h =>
      htelling.closing_head (by simp [h])
    by_cases hnil : keys = []
    · simp only [if_pos hnil, hclosing, hwraps]
    · simp only [if_neg hnil, hwraps, iff_false]
      decide

/-- What stands between the brackets tells the keys, whether it is on one line or not. -/
theorem inside_inj (htelling : dialect.Telling) (lead : String) {keys others : List String}
    (hkeys : ∀ key ∈ keys, ¬ dialect.Ends key) (hothers : ∀ key ∈ others, ¬ dialect.Ends key)
    (h : Literal.inside lead (keys.map dialect.nullEntry) ++ dialect.closing true
      = Literal.inside lead (others.map dialect.nullEntry) ++ dialect.closing true) :
    keys = others := by
  have hlines : Literal.Wraps (keys.map dialect.nullEntry)
      ↔ Literal.Wraps (others.map dialect.nullEntry) := by
    rw [← head?_inside_eq_lineFeed_iff htelling lead, h, head?_inside_eq_lineFeed_iff htelling]
  have hchars := congrArg String.toList h
  by_cases hwraps : Literal.Wraps (keys.map dialect.nullEntry)
  · -- On several lines the lead of the first entry comes first, and the others follow commas.
    rw [Literal.inside_of_wraps hwraps, Literal.inside_of_wraps (hlines.mp hwraps)] at hchars
    simp only [String.toList_append, List.append_assoc, List.append_cancel_left_eq] at hchars
    exact intercalate_inj htelling.quote_notMem String.toList_append (by simp) (by simp) hkeys
      hothers hchars
  · rw [Literal.inside_of_not_wraps hwraps,
      Literal.inside_of_not_wraps (mt hlines.mpr hwraps), String.toList_append,
      String.toList_append] at hchars
    exact intercalate_inj htelling.quote_notMem rfl
      (fun h => htelling.closing_head (by simp [h])) (fun h => htelling.closing_head (by simp [h]))
      hkeys hothers hchars

end Dialect

/-- The text of a dictionary of null values tells its keys. -/
theorem expressionText_dictionary_inj {dialect : Dialect} (htelling : dialect.Telling)
    (lead : String) {keys others : List String}
    (hkeys : ∀ key ∈ keys, ¬ dialect.Ends key) (hothers : ∀ key ∈ others, ¬ dialect.Ends key)
    (h : expressionText dialect lead (.dictionary (keys.map (·, .null)))
      = expressionText dialect lead (.dictionary (others.map (·, .null)))) : keys = others := by
  rw [Dialect.expressionText_dictionary_null, Dialect.expressionText_dictionary_null,
    String.append_assoc, String.append_assoc, String.append_right_inj] at h
  exact Dialect.inside_inj htelling lead hkeys hothers h

end Code

namespace Print

/-- Whatever comes of drafts in a configuration is what they have for one and the same lead. -/
theorem Draft.value_of_settle (config : Config) :
    ∃ lead, ∀ {draft : Draft String} {text : String},
      draft.settle config = .ok text → draft.value lead = text := by
  cases hlead : config.indent.process 1 with
  | ok lead =>
      refine ⟨lead, fun {draft text} h => ?_⟩
      rw [settle_of_ok hlead] at h
      exact Except.ok.inj h
  | error cause =>
      refine ⟨"", fun {draft text} h => ?_⟩
      rw [settle_of_error hlead] at h
      split at h
      · cases h
      · exact Except.ok.inj h

end Print

open Print Code

/-- Dictionaries of null values whose keys do not hold the end of an entry. If they are
    printed with the same text, they have the same keys. -/
theorem dictionary_keys_eq {config : Config} {middlewares : List Middleware}
    (hmiddlewares : ∀ middleware ∈ middlewares, middleware.Onlooker) (keys others : List String)
    (text : String) :
    ((∀ key ∈ keys ++ others, ¬ Php.dialect.Ends key) →
      (Php.expressionOutline (.dictionary (keys.map (·, .null)))).Shows
        (.initial config middlewares) text →
      (Php.expressionOutline (.dictionary (others.map (·, .null)))).Shows
        (.initial config middlewares) text → keys = others) ∧
    ((∀ key ∈ keys ++ others, ¬ TypeScript.dialect.Ends key) →
      (TypeScript.expressionOutline (.dictionary (keys.map (·, .null)))).Shows
        (.initial config middlewares) text →
      (TypeScript.expressionOutline (.dictionary (others.map (·, .null)))).Shows
        (.initial config middlewares) text → keys = others) := by
  rcases Draft.value_of_settle config with ⟨lead, hlead⟩
  simp only [List.forall_mem_append]
  refine ⟨fun hends hfirst hsecond => ?_, fun hends hfirst hsecond => ?_⟩
  · refine expressionText_dictionary_inj ⟨by decide, by decide⟩ lead hends.1 hends.2 ?_
    exact (hlead (hfirst.settle_eq (Php.print_expression _ hmiddlewares))).trans
      (hlead (hsecond.settle_eq (Php.print_expression _ hmiddlewares))).symm
  · refine expressionText_dictionary_inj ⟨by decide, by decide⟩ lead hends.1 hends.2 ?_
    exact (hlead (hfirst.settle_eq (TypeScript.print_expression _ hmiddlewares))).trans
      (hlead (hsecond.settle_eq (TypeScript.print_expression _ hmiddlewares))).symm

/-- Keys with quotes can be told apart as long as the quotes end no entry. -/
theorem dictionary_keys_eq_quoted :
    (Php.expressionOutline (.dictionary (["a\"b", "c"].map (·, .null)))).Shows
        (.initial .standard []) "array(\"a\"b\" => null, \"c\" => null)" ∧
      ∀ others, (∀ key ∈ others, ¬ Php.dialect.Ends key) →
        (Php.expressionOutline (.dictionary (others.map (·, .null)))).Shows
          (.initial .standard []) "array(\"a\"b\" => null, \"c\" => null)" →
        ["a\"b", "c"] = others := by
  have hshows : (Php.expressionOutline (.dictionary (["a\"b", "c"].map (·, .null)))).Shows
      (.initial .standard []) "array(\"a\"b\" => null, \"c\" => null)" := by
    rw [Outline.Shows, Php.print_expression _ (List.forall_mem_nil _)]
    rfl
  refine ⟨hshows, fun others hothers hsame => ?_⟩
  have hkeys : ∀ key ∈ ["a\"b", "c"], ¬ Php.dialect.Ends key := by decide
  exact (dictionary_keys_eq (List.forall_mem_nil _) _ others _).1
    (List.forall_mem_append.mpr ⟨hkeys, hothers⟩) hshows hsame

/-- One key that looks like two entries. -/
theorem keys_look_like_entries :
    (["a\" => null, \"b"] ≠ ["a", "b"] ∧
      (Php.expressionOutline (.dictionary (["a\" => null, \"b"].map (·, .null)))).Shows
        (.initial .standard []) "array(\"a\" => null, \"b\" => null)" ∧
      (Php.expressionOutline (.dictionary (["a", "b"].map (·, .null)))).Shows
        (.initial .standard []) "array(\"a\" => null, \"b\" => null)") ∧
    (["a\": null, \"b"] ≠ ["a", "b"] ∧
      (TypeScript.expressionOutline (.dictionary (["a\": null, \"b"].map (·, .null)))).Shows
        (.initial .standard []) "\x7b\"a\": null, \"b\": null\x7d" ∧
      (TypeScript.expressionOutline (.dictionary (["a", "b"].map (·, .null)))).Shows
        (.initial .standard []) "\x7b\"a\": null, \"b\": null\x7d") := by
  simp only [Outline.Shows, Php.print_expression _ (List.forall_mem_nil _),
    TypeScript.print_expression _ (List.forall_mem_nil _)]
  exact ⟨⟨by decide, rfl, rfl⟩, by decide, rfl, rfl⟩

end ClassForge
