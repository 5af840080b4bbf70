/-!
# Checked Sizes

Indentation is counted in machine words. A count that would not fit is never
wrapped and never clamped: the whole computation that needed it is given up,
with the operation that overflowed as the cause. The same happens to a text
that would have more bytes than memory can hold. This is a different kind of
outcome from a printing error, which a printer may catch and answer with text
of its own.

## Main definitions

* `Overflow`: The operation whose result does not fit.
* `Size.add`, `Size.mul`: Checked sum and product.
* `maxBytes`: The length of the longest text.

## Theorems

* `Size.add_eq_ok_iff`, `Size.mul_eq_ok_iff`: A checked operation succeeds
  exactly when the result fits, and is then exact.
-/

namespace ClassForge

namespace Print

/-- The operation whose result does not fit. -/
inductive Overflow where
  /-- A sum of two sizes. -/
  | sum
  /-- A product of two sizes. -/
  | product
  /-- A text that repeats a filler. -/
  | capacity
  deriving DecidableEq

/-- The wording of an overflow. -/
def Overflow.message : Overflow → String
  | .sum => "attempt to add with overflow"
  | .product => "attempt to multiply with overflow"
  | .capacity => "capacity overflow"

/-- How many bytes the longest text has. A distance inside a text is a signed
    word, so this is half of what a word can count. -/
def maxBytes : Nat := 0x7fffffffffffffff

/-- A number of columns or of levels. -/
abbrev Size := UInt64

namespace Size

/-- The sum of two sizes, unless it does not fit. -/
def add (a b : Size) : Except Overflow Size :=
  if a.toNat + b.toNat < UInt64.size then .ok (a + b) else .error .sum

/-- The product of two sizes, unless it does not fit. -/
def mul (a b : Size) : Except Overflow Size :=
  if a.toNat * b.toNat < UInt64.size then .ok (a * b) else .error .product

/-- A checked sum succeeds exactly when it fits, and is then the sum of the
    numbers. -/
theorem add_eq_ok_iff {a b c : Size} :
    add a b = .ok c ↔ c.toNat = a.toNat + b.toNat := by
  have hc := c.toNat_lt
  unfold add
  split
  · rename_i h
    rw [Except.ok.injEq, ← UInt64.toNat_inj, UInt64.toNat_add, Nat.mod_eq_of_lt h]
    exact eq_comm
  · rename_i h
    simp only [UInt64.size] at h
    simp only [reduceCtorEq, false_iff]
    omega

/-- A checked product succeeds exactly when it fits, and is then the product
    of the numbers. -/
theorem mul_eq_ok_iff {a b c : Size} :
    mul a b = .ok c ↔ c.toNat = a.toNat * b.toNat := by
  have hc := c.toNat_lt
  unfold mul
  split
  · rename_i h
    rw [Except.ok.injEq, ← UInt64.toNat_inj, UInt64.toNat_mul, Nat.mod_eq_of_lt h]
    exact eq_comm
  · rename_i h
    simp only [UInt64.size] at h
    simp only [reduceCtorEq, false_iff]
    omega

end Size

end Print

end ClassForge
