import CardSearch.Decimal.Reading
import CardSearch.Json.Basic

/-!
# Numbers in documents

A number without a point and an exponent stays whole if it fits sixty-four bits. Every other
number becomes a double: its digits are gathered into a whole number for as long as that fits
sixty-four bits, and this is then scaled by one power of ten.
-/

namespace CardSearch.Numeral

/-- Appends digits to `n` for as long as the result fits sixty-four bits; with the digits left. -/
def gather (n : Nat) : List Char → Nat × List Char
  | []      => (n, [])
  | d :: ds =>
    let m := 10 * n + (d.toNat - '0'.toNat)
    if m < Nat.pow 2 64 then gather m ds else (n, d :: ds)

/-- A power of ten with a double of its own. -/
def powerOfTen (k : Nat) : Number := Decimal.toNumber ⟨1, k⟩

/-- Scales by a power of ten, in steps of at most `1e308`; nothing if the result is infinite. -/
def scale? (x : Number) (e : Int) : Option Number :=
  if e.natAbs ≤ 308 then
    if 0 ≤ e then
      let y := x.mul (powerOfTen e.natAbs)
      if y.isInfinite then none else some y
    else some (x.div (powerOfTen e.natAbs))
  else if x.isZero then some x
  else if 0 ≤ e then none
  else scale? (x.div (powerOfTen 308)) (e + 308)
termination_by e.natAbs
decreasing_by omega

/-- The number of a text that has neither a point nor an exponent and fits sixty-four bits. -/
def ofWhole (negative : Bool) (n : Nat) : Numeral :=
  if !negative then .integer n
  else if 0 < n ∧ n ≤ Nat.pow 2 63 then .integer (-n)
  else .double (Number.ofNat n).neg

/-- The number that a text stands for. -/
def read? (cs : List Char) : Option Numeral := do
  let (negative, cs) := match cs with
    | '-' :: cs => (true, cs)
    | cs        => (false, cs)
  let (whole, rest) := Decimal.takeDigits cs
  guard (!whole.isEmpty && (whole.head? != some '0' || whole.length == 1))
  let (n, dropped) := gather 0 whole
  match rest, dropped with
  | [], [] => return ofWhole negative n
  | '.' :: rest, _ =>
    let (fraction, rest) := Decimal.takeDigits rest
    guard (!fraction.isEmpty)
    let (m, left) := gather n fraction
    let e ← Decimal.readExponent? rest
    finish negative m (dropped.length - (fraction.length - left.length : Nat) + e)
  | rest, _ =>
    let e ← Decimal.readExponent? rest
    finish negative n (dropped.length + e)
where
  /-- Scales the digits and gives them their sign. -/
  finish (negative : Bool) (n : Nat) (e : Int) : Option Numeral :=
    (scale? (Number.ofNat n) e).map fun x => .double (x.withSign negative)

end CardSearch.Numeral
