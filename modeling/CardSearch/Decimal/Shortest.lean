import CardSearch.Decimal.Basic
import CardSearch.Number

/-!
# The shortest decimal that reads back

A finite number is the nearest one to every decimal in an interval around it. Among the decimals
of that interval those with the fewest digits are taken, and among those the nearest to the
number. All of it is exact: number, interval and decimals are whole multiples of one power of ten.
-/

namespace CardSearch.Decimal

/-- Which of two decimals that are equally near is taken. -/
inductive Tie where
  /-- The one further from zero. -/
  | up
  /-- The one with the even last digit. -/
  | even
deriving DecidableEq, Repr

/-- A positive value and the interval of what reads back as it, in units of `10 ^ -places`. -/
structure Interval where
  value : Nat
  lower : Nat
  upper : Nat
  /-- Whether the two ends read back as well. -/
  closed : Bool
  places : Nat

namespace Interval

/-- Whether a decimal reads back. -/
def has (i : Interval) (d : Nat) : Bool :=
  if i.closed then decide (i.lower ≤ d) && decide (d ≤ i.upper)
  else decide (i.lower < d) && decide (d < i.upper)

/-- The interval around a number, which is finite and not zero. A quarter of the number's last
place is a whole number of units. Below a power of two the numbers lie twice as close. -/
def around (x : Number) : Interval :=
  let m := x.significand
  let q := x.exponent - 2
  let places := (-q).toNat
  let unit := if q < 0 then Nat.pow 5 places else Nat.pow 2 q.toNat
  let below := if m = Nat.pow 2 52 ∧ 1 < x.biasedExponent then 1 else 2
  { value := 4 * m * unit
    lower := (4 * m - below) * unit
    upper := (4 * m + 2) * unit
    closed := decide (m % 2 = 0)
    places := places }

/-- The nearest decimal that reads back among the multiples of `step`, if there is one. -/
def nearest? (tie : Tie) (i : Interval) (step : Nat) : Option Nat :=
  let below := i.value / step
  let above := if i.value % step = 0 then below else below + 1
  match i.has (below * step), i.has (above * step) with
  | false, false => none
  | true,  false => some below
  | false, true  => some above
  | true,  true  =>
    match compare (2 * i.value) ((below + above) * step) with
    | .lt => some below
    | .gt => some above
    | .eq =>
      match tie with
      | .up   => some above
      | .even => some (if below % 2 = 0 then below else above)

/-- The first hit on ever finer grids: one digit, two digits, and so on. Seventeen digits always
suffice, and the value itself is always a hit. -/
def shortest (tie : Tie) (i : Interval) : Decimal :=
  let count := digitCount i.value
  let hit := (List.range 17).findSome? fun n =>
    let spare := count - (n + 1)
    (i.nearest? tie (Nat.pow 10 spare)).map fun d => (d, spare)
  let (digits, spare) := hit.getD (i.value, 0)
  trimZeros digits (spare - i.places)

end Interval

/-- The shortest decimal that reads back as a finite number, without its sign. -/
def shortest (tie : Tie) (x : Number) : Decimal :=
  if x.isZero then ⟨0, 0⟩ else (Interval.around x).shortest tie

end CardSearch.Decimal
