import ClassForge.Text.Decimal

/-!
# Range of JSON Numbers

Which numbers a JSON reader takes. A number is read as a significand of at most
64 bits and a power of ten; digits that no longer fit are dropped, and counted
by the power if they stand in front of the point. The number is out of range
if the power alone is, or if the product is too large for double precision.
A number too small for it is zero, and zero is always in range.

## Main definitions

* `roundToDouble`: The nearest number with 53 significant bits.
* `Numeral`: The parts of a number as it is written.
* `isInRange`: Whether a number is in range.
-/

namespace ClassForge

namespace Json

open Text (digitValue decimalValue)

/-- The nearest number with at most 53 significant bits; of two equally near
    ones, the one whose last bit is zero. -/
def roundToDouble (n : Nat) : Nat :=
  if n.log2 < 53 then n
  else
    let shift := n.log2 - 52
    let kept := n / Nat.pow 2 shift
    let dropped := n % Nat.pow 2 shift
    let half := Nat.pow 2 (shift - 1)
    let rounded :=
      if half < dropped ∨ (half = dropped ∧ kept % 2 = 1) then kept + 1 else kept
    rounded * Nat.pow 2 shift

/-- The least number that double precision rounds to infinity. -/
def infinityBound : Nat := Nat.pow 2 1024 - Nat.pow 2 970

/-- The parts of a number as it is written, sign aside. -/
structure Numeral where
  /-- The digits in front of the point. -/
  whole : List Char
  /-- The digits behind the point. -/
  fraction : List Char
  /-- The exponent. -/
  exponent : Int

namespace Numeral

/-- The parts of a number. -/
def ofLiteral (literal : List Char) : Numeral :=
  let unsigned := literal.dropWhile (· = '-')
  let rest := unsigned.dropWhile Char.isDigit
  let fraction := (rest.dropWhile (· = '.')).takeWhile Char.isDigit
  let marked := (rest.dropWhile fun c => c = '.' || c.isDigit).drop 1
  let magnitude : Int := decimalValue (marked.dropWhile fun c => c = '+' || c = '-')
  ⟨unsigned.takeWhile Char.isDigit, fraction,
    if marked.head? = some '-' then -magnitude else magnitude⟩

/-- The significand after reading digits for as long as it fits a word, and the
    number of digits that were not read. -/
def read (significand : Nat) : List Char → Nat × Nat
  | [] => (significand, 0)
  | c :: digits =>
    let next := 10 * significand + digitValue c
    if next < UInt64.size then read next digits else (significand, digits.length + 1)

/-- Whether a number is in range. -/
def isInRange (numeral : Numeral) : Bool :=
  let (significand, unread) := read 0 numeral.whole
  let (significand, dropped) := read significand numeral.fraction
  let power : Int :=
    numeral.exponent + unread - ((numeral.fraction.length - dropped : Nat) : Int)
  significand = 0 || power < 0
    || (power ≤ 308
      && roundToDouble significand * roundToDouble (Nat.pow 10 power.toNat) < infinityBound)

end Numeral

/-- Whether a number is in range. -/
def isInRange (literal : List Char) : Bool := (Numeral.ofLiteral literal).isInRange

end Json

end ClassForge
