import CardSearch.Decimal.Basic
import CardSearch.Number

/-!
# Reading numbers

The nearest number to a decimal, and the numbers that a word can stand for: digits with an
optional point, exponent and sign, or one of the names of the infinities and of what is not a
number.
-/

namespace CardSearch

namespace Decimal

/-- The nearest number to a decimal. Beyond four hundred places the result does not depend on the
digits: every such decimal is nearest to the infinity or to zero. -/
def toNumber (d : Decimal) : Number :=
  if d.digits = 0 then .zero
  else if 400 < d.exponent then .infinity
  else if d.exponent < -(digitCount d.digits + 400 : Nat) then .zero
  else .ofFloat (Float.ofScientific d.digits (decide (d.exponent < 0)) d.exponent.natAbs)

/-- The whole number that digits stand for. -/
def ofDigits (ds : List Char) : Nat := ds.foldl (fun n c => 10 * n + (c.toNat - '0'.toNat)) 0

/-- Splits off the digits at the front. -/
def takeDigits (cs : List Char) : List Char × List Char :=
  (cs.takeWhile Char.isDigit, cs.dropWhile Char.isDigit)

/-- Splits off a sign; `true` stands for a minus. -/
def takeSign : List Char → Bool × List Char
  | '-' :: cs => (true, cs)
  | '+' :: cs => (false, cs)
  | cs        => (false, cs)

/-- The exponent that ends a number: nothing, or a marked whole number with at least one digit. -/
def readExponent? : List Char → Option Int
  | []      => some 0
  | c :: cs =>
    if c = 'e' ∨ c = 'E' then
      let (negative, cs) := takeSign cs
      let (ds, rest) := takeDigits cs
      if ds.isEmpty || !rest.isEmpty then none
      else some (if negative then -(ofDigits ds : Int) else ofDigits ds)
    else none

/-- The decimal that a text without a sign stands for. -/
def read? (cs : List Char) : Option Decimal :=
  let (whole, rest) := takeDigits cs
  let (fraction, rest) :=
    match rest with
    | '.' :: rest => takeDigits rest
    | rest        => ([], rest)
  if whole.isEmpty && fraction.isEmpty then none
  else (readExponent? rest).map fun e => ⟨ofDigits (whole ++ fraction), e - fraction.length⟩

end Decimal

namespace Number

/-- The numbers that are written as names, in any case. -/
def named? (cs : List Char) : Option Number :=
  match String.ofList (cs.map Char.toLower) with
  | "inf" | "infinity" => some infinity
  | "nan"              => some nan
  | _                  => none

/-- The number that a word stands for. -/
def read? (word : String) : Option Number :=
  let (negative, cs) := Decimal.takeSign word.toList
  (((Decimal.read? cs).map Decimal.toNumber).or (named? cs)).map (withSign negative)

end Number

end CardSearch
