import ClassForge.Text.UpperCase

/-!
# Words with a Capital

Which texts become a given word when their first character is put in upper case.
For most words these are the word itself and the word with a small letter in
front, but that depends on the letter: the long s and the small s have the same
capital, and a ligature brings several letters of the word with it.

So the question is decided by the tables, and `Capital` is what has to be found
in them. It is a finite check for a given word.

## Main definitions

* `Capital`: A letter that is the capital of exactly one other, in front of a
  rest with which no character of several capitals is confused.

## Theorems

* `upperCase_cases`: What the upper case of a character can be.
* `upperFirst_eq_iff`: The texts that become a word.
* `capital_array`, `capital_object`: Two words.
-/

namespace ClassForge

namespace Text

/-- Where the upper case of a character comes from. -/
theorem upperCase_cases (c : Char) :
    (∃ codes, (c.toNat, codes) ∈ upperSeveral ∧ upperCase c = codes.map Char.ofNat) ∨
      (∃ run ∈ upperRuns, ∃ code, run.apply? c.toNat = some code ∧
        upperCase c = [Char.ofNat code]) ∨
      upperCase c = [c] := by
  unfold upperCase
  split
  · rename_i codes hcodes
    rcases List.lookup_eq_some_iff.mp hcodes with ⟨before, after, heq, _⟩
    exact .inl ⟨codes, by rw [heq]; exact List.mem_append_right before List.mem_cons_self, rfl⟩
  · split
    · rename_i code hcode
      rcases List.exists_of_findSome?_eq_some hcode with ⟨run, hrun, happly⟩
      exact .inr (.inl ⟨run, hrun, code, happly, rfl⟩)
    · exact .inr (.inr rfl)

theorem eq_toNat_of_ofNat_eq {code : Nat} {c : Char} (hc : c.toNat ≠ 0)
    (hcode : Char.ofNat code = c) : code = c.toNat := by
  by_cases hvalid : code.isValidChar
  · rw [← hcode, Char.ofNat, dif_pos hvalid]
    rfl
  · rw [Char.ofNat, dif_neg hvalid] at hcode
    exact absurd (by rw [← hcode]; rfl) hc

/-- A letter that is the capital of one other letter, in front of a rest of a
    word. No upper case of several characters stands at the start of the word. -/
structure Capital (small capital : Char) (rest : List Char) : Prop where
  upper_small : upperCase small = [capital]
  upper_capital : upperCase capital = [capital]
  /-- The letter is met only in runs that map the small letter to it. -/
  only_small : ∀ run ∈ upperRuns, run.target ≤ capital.toNat →
    capital.toNat ≤ run.target + (run.last - run.first) →
    run.first + (capital.toNat - run.target) = small.toNat
  not_several : ∀ pair ∈ upperSeveral, ¬ pair.2.map Char.ofNat <+: capital :: rest
  ne_zero : capital.toNat ≠ 0

variable {small capital : Char} {rest : List Char}

theorem Capital.eq_small (h : Capital small capital rest) {run : CaseRun} {c : Char}
    (hrun : run ∈ upperRuns) (happly : run.apply? c.toNat = some capital.toNat) : c = small := by
  unfold CaseRun.apply? at happly
  split at happly
  · rename_i hin
    rw [Option.some.injEq] at happly
    have hsmall := h.only_small run hrun (by omega) (by omega)
    exact Char.toNat_inj.mp (by omega)
  · cases happly

/-- The texts that become a word are the word and the word with a small letter in
    front. -/
theorem upperFirst_eq_iff (h : Capital small capital rest) (text : String) :
    upperFirst text = String.ofList (capital :: rest) ↔
      text = String.ofList (small :: rest) ∨ text = String.ofList (capital :: rest) := by
  constructor
  · intro hupper
    unfold upperFirst at hupper
    split at hupper
    · exact absurd (String.toList_inj.mpr hupper) (by simp)
    · rename_i c tail htext
      rw [String.ofList_inj] at hupper
      have heq : text = String.ofList (c :: tail) := by rw [← htext, String.ofList_toList]
      -- One letter may become several, be moved by a table, or stay what it is.
      rcases upperCase_cases c with ⟨codes, hcodes, hc⟩ | ⟨run, hrun, code, happly, hc⟩ | hc
      · rw [hc] at hupper
        exact absurd ⟨tail, hupper⟩ (h.not_several _ hcodes)
      · rw [hc, List.singleton_append, List.cons.injEq] at hupper
        rw [eq_toNat_of_ofNat_eq h.ne_zero hupper.1] at happly
        left
        rw [heq, h.eq_small hrun happly, hupper.2]
      · rw [hc, List.singleton_append] at hupper
        right
        rw [heq, hupper]
  · rintro (rfl | rfl)
    · rw [upperFirst, String.toList_ofList]
      simp only [h.upper_small, List.singleton_append]
    · rw [upperFirst, String.toList_ofList]
      simp only [h.upper_capital, List.singleton_append]

theorem upperFirst_ne_iff (h : Capital small capital rest) (text : String) :
    upperFirst text ≠ String.ofList (capital :: rest) ↔
      text ≠ String.ofList (small :: rest) ∧ text ≠ String.ofList (capital :: rest) := by
  rw [← not_or, ← upperFirst_eq_iff h]

section Words

set_option maxRecDepth 4000

theorem capital_array : Capital 'a' 'A' ['r', 'r', 'a', 'y'] :=
  ⟨by decide, by decide, by decide, by decide, by decide⟩

theorem capital_object : Capital 'o' 'O' ['b', 'j', 'e', 'c', 't'] :=
  ⟨by decide, by decide, by decide, by decide, by decide⟩

end Words

end Text

end ClassForge
