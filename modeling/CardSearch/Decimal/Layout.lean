import CardSearch.Decimal.Shortest

/-!
# Written numbers

How a number is written once its digits are known. A layout says which numbers are written out in
full and which with an exponent, and whether a whole number shows that it is not an integer.
-/

namespace CardSearch.Decimal

/-- The decisions in which written numbers differ. -/
structure Layout where
  /-- Which of two equally near decimals is taken. -/
  tie : Tie
  /-- Whether a number is written out in full, from the power of ten of its first digit. -/
  inFull : Int → Bool
  /-- What a whole number that is written out in full ends in. -/
  wholeEnd : String

/-- The plain form: never an exponent, and no mark on whole numbers. -/
def Layout.plain : Layout := ⟨.up, fun _ => true, ""⟩

/-- The form of a double in a JSON document: written out in full from `1e-5` up to `1e16`. -/
def Layout.json : Layout := ⟨.even, fun e => decide (-5 ≤ e) && decide (e < 16), ".0"⟩

/-- The digits of a decimal with the point in its place. -/
def inFull (wholeEnd : String) (d : Decimal) : String :=
  let ds := digitList d.digits
  let point : Int := ds.length + d.exponent
  if 0 ≤ d.exponent then
    String.ofList (ds ++ List.replicate d.exponent.toNat '0') ++ wholeEnd
  else if 0 < point then
    String.ofList (ds.take point.toNat ++ '.' :: ds.drop point.toNat)
  else
    "0." ++ String.ofList (List.replicate (-point).toNat '0' ++ ds)

/-- One digit before the point, and a power of ten with its sign. -/
def withExponent (d : Decimal) : String :=
  let ds := digitList d.digits
  let power : Int := ds.length + d.exponent - 1
  let tail := if ds.tail.isEmpty then [] else '.' :: ds.tail
  String.ofList (ds.take 1 ++ tail ++ ['e', if power < 0 then '-' else '+'])
    ++ toString power.natAbs

/-- A decimal in the given layout. -/
def write (l : Layout) (d : Decimal) : String :=
  let power : Int := digitCount d.digits + d.exponent - 1
  if l.inFull power then inFull l.wholeEnd d else withExponent d

end CardSearch.Decimal

namespace CardSearch.Number

open Decimal

/-- A number as text. -/
def write (l : Layout) (x : Number) : String :=
  if x.isNaN then "NaN"
  else
    let sign := if x.isNegative then "-" else ""
    if x.isInfinite then sign ++ "inf" else sign ++ (shortest l.tie x).write l

end CardSearch.Number
