/-!
# Decimal Numbers

Reading numbers that are written with decimal digits.

## Main definitions

* `digitValue`, `decimalValue`: The number that a digit or digits spell.
* `word?`: The machine word that digits spell, if it fits one.
-/

namespace ClassForge

namespace Text

/-- The value of a decimal digit. -/
def digitValue (c : Char) : Nat := c.toNat - '0'.toNat

/-- The number that decimal digits spell. -/
def decimalValue (digits : List Char) : Nat :=
  digits.foldl (fun value c => 10 * value + digitValue c) 0

/-- The machine word that a text of digits spells, if there is a digit, there is
    nothing else, and it fits. -/
def word? (digits : List Char) : Option UInt64 :=
  if digits ≠ [] ∧ digits.all Char.isDigit ∧ decimalValue digits < UInt64.size then
    some (decimalValue digits).toUInt64
  else none

end Text

end ClassForge
