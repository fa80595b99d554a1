/-!
# Numbers

Binary64 numbers, held by their sixty-four bits. The bits below the sign grow with the distance
from zero, so the order of two numbers is the order of two integers, and both zeros have the same
place in it.
-/

namespace CardSearch

/-- A binary64 number. -/
structure Number where
  /-- The sign, the biased exponent and the fraction. -/
  bits : UInt64
deriving DecidableEq, Repr, Inhabited

namespace Number

/-! ### The parts of a number -/

/-- The bits below the sign. -/
def magnitude (x : Number) : Nat := x.bits.toNat % Nat.pow 2 63

/-- Whether the sign bit is set. -/
def isNegative (x : Number) : Bool := decide (Nat.pow 2 63 ≤ x.bits.toNat)

/-- The magnitude of the infinities. Beyond it lie the numbers that are none. -/
def infiniteMagnitude : Nat := 2047 * Nat.pow 2 52

/-- Whether this is not a number. -/
def isNaN (x : Number) : Bool := decide (infiniteMagnitude < x.magnitude)

/-- Whether this is one of the infinities. -/
def isInfinite (x : Number) : Bool := decide (x.magnitude = infiniteMagnitude)

/-- The exponent field. -/
def biasedExponent (x : Number) : Nat := x.magnitude / Nat.pow 2 52

/-- The whole number that a finite number is a power of two times of. -/
def significand (x : Number) : Nat :=
  let fraction := x.magnitude % Nat.pow 2 52
  if x.biasedExponent = 0 then fraction else Nat.pow 2 52 + fraction

/-- The power of two that goes with the significand of a finite number. -/
def exponent (x : Number) : Int := (max x.biasedExponent 1 : Nat) - 1075

/-! ### Order -/

/-- The place of a number in the order. -/
def rank (x : Number) : Int := if x.isNegative then -(x.magnitude : Int) else x.magnitude

/-- The order of two numbers, unless one of them is not a number. -/
def compare? (a b : Number) : Option Ordering :=
  if a.isNaN || b.isNaN then none else some (compare a.rank b.rank)

/-- Whether two numbers have the same value. What is not a number has none. -/
def sameValue (a b : Number) : Bool := a.compare? b == some .eq

/-! ### Arithmetic -/

/-- The number with the bits of a machine float. -/
def ofFloat (f : Float) : Number := ⟨f.toBits⟩

/-- The machine float with the same bits. -/
def toFloat (x : Number) : Float := Float.ofBits x.bits

/-- The nearest number to a whole number. -/
def ofNat (n : Nat) : Number := ofFloat (Float.ofNat n)

/-- The number with the other sign. -/
def neg (x : Number) : Number := ⟨x.bits ^^^ 0x8000000000000000⟩

/-- The nearest number to a whole number. -/
def ofInt : Int → Number
  | .ofNat n   => ofNat n
  | .negSucc n => (ofNat (n + 1)).neg

/-- The nearest number to a product. -/
def mul (a b : Number) : Number := ofFloat (a.toFloat * b.toFloat)

/-- The nearest number to a quotient. -/
def div (a b : Number) : Number := ofFloat (a.toFloat / b.toFloat)

/-- The positive infinity. -/
def infinity : Number := ⟨0x7FF0000000000000⟩

/-- What is not a number. -/
def nan : Number := ⟨0x7FF8000000000000⟩

/-- The positive zero. -/
def zero : Number := ⟨0⟩

/-- Whether this is one of the two zeros. -/
def isZero (x : Number) : Bool := decide (x.magnitude = 0)

/-- Gives a number the sign that it was written with. -/
def withSign (negative : Bool) (x : Number) : Number := if negative then x.neg else x

end Number

end CardSearch
