import ClassForge.Proofs.Json.Written
import Mathlib.Data.List.TakeWhile

/-!
# Machine Words in JSON

A machine word is written with its decimal digits, none of them in front that is not
needed. This module shows that such digits are a JSON number, that the number is in
range, and that the word is read back from it exactly, however large it is.

The range is that of double precision, so the argument about it goes through the
rounding. Rounding never more than doubles a number, and twice a word is far from
what double precision cannot hold.

## Theorems

* `decimalValue_repr`, `word?_repr`: What is read back from written digits.
* `isNumber_repr`: Written digits are a number.
* `roundToDouble_le`: Rounding at most doubles.
* `isInRange_repr`: Words are in range.
* `readable_word`: A written word can be read.
-/

namespace ClassForge

namespace Json

open Text (digitValue decimalValue word?)

section Digits

theorem decimalValue_repr (n : Nat) : decimalValue n.repr.toList = n := by
  rw [Nat.toList_repr]
  exact Nat.ofDigitChars_toDigits (by decide) (by decide)

theorem isDigit_of_mem_repr {n : Nat} {c : Char} (h : c ∈ n.repr.toList) : c.isDigit = true := by
  rw [Nat.toList_repr] at h
  exact Nat.isDigit_of_mem_toDigits (by decide) (by decide) h

theorem repr_ne_nil (n : Nat) : n.repr.toList ≠ [] := by
  rw [Nat.toList_repr]
  exact Nat.toDigits_ne_nil

/-- A word is read back from its digits. -/
theorem word?_repr (word : UInt64) : word? word.toNat.repr.toList = some word := by
  have hdigits : word.toNat.repr.toList.all Char.isDigit = true :=
    List.all_eq_true.mpr fun c hc => isDigit_of_mem_repr hc
  rw [word?, decimalValue_repr, if_pos ⟨repr_ne_nil _, hdigits, word.toNat_lt⟩]
  exact congrArg some UInt64.ofNat_toNat

end Digits

section Numbers

/-- The digits of a positive number are those of its tenth part and one more. -/
theorem toDigits_of_ten_le {n : Nat} (h : 10 ≤ n) :
    Nat.toDigits 10 n = Nat.toDigits 10 (n / 10) ++ [Nat.digitChar (n % 10)] := by
  have hlast : n % 10 < 10 := Nat.mod_lt n (by decide)
  rw [← Nat.toDigits_of_lt_base hlast, Nat.toDigits_append_toDigits (by decide) (by omega) hlast,
    Nat.div_add_mod]

/-- The digits of a positive number start with one that is not zero, and every other one
    continues the number. -/
theorem exists_whole_of_pos (n : Nat) (hpos : 0 < n) :
    ∃ c rest, Nat.toDigits 10 n = c :: rest ∧ NumberPart.start? c = some .whole ∧
      rest.foldlM NumberPart.next? .whole = some .whole := by
  induction n using Nat.strongRecOn with
  | _ n ih =>
      by_cases hten : 10 ≤ n
      · -- The first digit is that of the tenth part, and the last one continues it.
        rcases ih (n / 10) (by omega) (by omega) with ⟨c, rest, hdigits, hstart, hrest⟩
        refine ⟨c, rest ++ [Nat.digitChar (n % 10)], ?_, hstart, ?_⟩
        · rw [toDigits_of_ten_le hten, hdigits, List.cons_append]
        · have hlast : ∀ digit < 10,
              NumberPart.next? .whole (Nat.digitChar digit) = some .whole := by decide
          rw [List.foldlM_append, hrest]
          change (List.foldlM NumberPart.next? .whole [Nat.digitChar (n % 10)]) = some .whole
          rw [List.foldlM_cons, hlast (n % 10) (Nat.mod_lt n (by decide))]
          rfl
      · have hfirst : ∀ digit < 10, 0 < digit →
            NumberPart.start? (Nat.digitChar digit) = some .whole := by decide
        have hlt : n < 10 := Nat.lt_of_not_le hten
        exact ⟨Nat.digitChar n, [], Nat.toDigits_of_lt_base hlt, hfirst n hlt hpos, rfl⟩

theorem isNumber_repr (n : Nat) : IsNumber n.repr.toList := by
  rw [Nat.toList_repr]
  rcases Nat.eq_zero_or_pos n with rfl | hpos
  · exact ⟨'0', [], .zero, .zero, rfl, rfl, rfl, rfl⟩
  · rcases exists_whole_of_pos n hpos with ⟨c, rest, hdigits, hstart, hrest⟩
    exact ⟨c, rest, .whole, .whole, hdigits, hstart, hrest, rfl⟩

end Numbers

section Range

/-- Rounding at most doubles a number. -/
theorem roundToDouble_le (n : Nat) : roundToDouble n ≤ 2 * n := by
  unfold roundToDouble
  by_cases hsmall : n.log2 < 53
  · rw [if_pos hsmall]
    omega
  · rw [if_neg hsmall]
    dsimp only [Nat.pow_eq]
    have hne : n ≠ 0 := by
      rintro rfl
      exact hsmall (by decide)
    have hpower : 2 ^ (n.log2 - 52) ≤ n :=
      Nat.le_trans (Nat.pow_le_pow_right (by decide) (Nat.sub_le _ _)) (Nat.log2_self_le hne)
    have hkept : n / 2 ^ (n.log2 - 52) * 2 ^ (n.log2 - 52) ≤ n := Nat.div_mul_le_self n _
    -- One more of the last bit that is kept is at most the number itself.
    split
    · calc (n / 2 ^ (n.log2 - 52) + 1) * 2 ^ (n.log2 - 52)
          = n / 2 ^ (n.log2 - 52) * 2 ^ (n.log2 - 52) + 2 ^ (n.log2 - 52) := by
            rw [Nat.add_mul, Nat.one_mul]
        _ ≤ n + n := Nat.add_le_add hkept hpower
        _ = 2 * n := (Nat.two_mul n).symm
    · exact Nat.le_trans hkept (by omega)

/-- Reading a digit never makes a number smaller. -/
theorem le_foldl_digits (digits : List Char) (n : Nat) :
    n ≤ digits.foldl (fun value c => 10 * value + digitValue c) n := by
  induction digits generalizing n with
  | nil => exact Nat.le_refl n
  | cons c digits ih => exact Nat.le_trans (by omega) (ih (10 * n + digitValue c))

/-- Digits that fit a word together are all read. -/
theorem read_of_lt (digits : List Char) (n : Nat)
    (h : digits.foldl (fun value c => 10 * value + digitValue c) n < UInt64.size) :
    Numeral.read n digits = (digits.foldl (fun value c => 10 * value + digitValue c) n, 0) := by
  induction digits generalizing n with
  | nil => rfl
  | cons c digits ih =>
      -- What is read so far is at most what is read in the end.
      have hnext : 10 * n + digitValue c < UInt64.size :=
        Nat.lt_of_le_of_lt (le_foldl_digits digits _) h
      rw [Numeral.read, if_pos hnext, ih _ h]
      rfl

theorem ofLiteral_repr (n : Nat) : Numeral.ofLiteral n.repr.toList = ⟨n.repr.toList, [], 0⟩ := by
  have hdigit : ∀ c ∈ n.repr.toList, c.isDigit = true := fun c hc => isDigit_of_mem_repr hc
  have hunsigned : n.repr.toList.dropWhile (· = '-') = n.repr.toList := by
    refine List.dropWhile_eq_self_iff.mpr fun hlength hsign => ?_
    have hfirst := hdigit _ (List.getElem_mem hlength)
    rw [of_decide_eq_true hsign] at hfirst
    cases hfirst
  have htaken : n.repr.toList.takeWhile Char.isDigit = n.repr.toList :=
    List.takeWhile_eq_self_iff.mpr hdigit
  have hrest : n.repr.toList.dropWhile Char.isDigit = [] :=
    List.dropWhile_eq_nil_iff.mpr hdigit
  rw [Numeral.ofLiteral]
  simp only [hunsigned, htaken, hrest]
  rfl

/-- Every word is in range. -/
theorem isInRange_repr (word : UInt64) : isInRange word.toNat.repr.toList = true := by
  have hread : Numeral.read 0 word.toNat.repr.toList = (word.toNat, 0) := by
    have hvalue : word.toNat.repr.toList.foldl (fun value c => 10 * value + digitValue c) 0
        = word.toNat := decimalValue_repr word.toNat
    rw [read_of_lt, hvalue]
    rw [hvalue]
    exact word.toNat_lt
  have hbound : roundToDouble word.toNat < infinityBound :=
    calc roundToDouble word.toNat
        ≤ 2 * word.toNat := roundToDouble_le _
      _ < 2 ^ 65 := by have := word.toNat_lt; omega
      _ < infinityBound := by decide +kernel
  -- All digits are read, none stands behind the point, and the power is that of one.
  have hproduct : roundToDouble word.toNat * roundToDouble (Nat.pow 10 0) < infinityBound := by
    rwa [show roundToDouble (Nat.pow 10 0) = 1 from rfl, Nat.mul_one]
  rw [isInRange, ofLiteral_repr, Numeral.isInRange, hread]
  exact Bool.or_eq_true_iff.mpr (.inr (Bool.and_eq_true_iff.mpr ⟨rfl, decide_eq_true hproduct⟩))

end Range

/-- A written word can be read. -/
theorem readable_word (word : UInt64) (depth : Nat) :
    (Data.number word.toNat.repr.toList).Readable depth :=
  .number (isNumber_repr _) (isInRange_repr word) depth

end Json

end ClassForge
