/-!
# Decimals

A decimal is a whole number of units of a power of ten.
-/

namespace CardSearch

/-- The value `digits * 10 ^ exponent`. -/
structure Decimal where
  digits : Nat
  exponent : Int
deriving DecidableEq, Repr

namespace Decimal

/-- The same value without zeros at the end of its digits. -/
def trimZeros (digits : Nat) (exponent : Int) : Decimal :=
  if digits ≠ 0 ∧ digits % 10 = 0 then trimZeros (digits / 10) (exponent + 1)
  else ⟨digits, exponent⟩
termination_by digits
decreasing_by omega

/-- The digits of a whole number, the first one first. -/
def digitList (n : Nat) : List Char := Nat.toDigits 10 n

/-- How many digits a whole number is written with. -/
def digitCount (n : Nat) : Nat := (digitList n).length

end Decimal

end CardSearch
