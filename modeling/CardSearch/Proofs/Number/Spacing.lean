import CardSearch.Proofs.Decimal.Shortest
import Mathlib.Algebra.Order.Field.Power
import Mathlib.Algebra.Order.Ring.Rat
import Mathlib.Order.Monotone.Basic

/-!
# The spacing of numbers

Between two neighbouring numbers lies a point half way. A decimal reads back as a number if it lies
between the points on its two sides; a point itself reads back as the one of its neighbours whose
significand is even. The points grow with the magnitude, so a decimal reads back as no more than
one magnitude.

All points are whole multiples of a quarter of the smallest number. In these units they are natural
numbers.
-/

namespace CardSearch.Number

open Decimal (Interval)

/-! ### Half way to the next number -/

/-- The significand of the finite numbers of a magnitude. -/
def significandOf (a : Nat) : Nat := if a / 2 ^ 52 = 0 then a % 2 ^ 52 else 2 ^ 52 + a % 2 ^ 52

/-- The power of two, over the smallest one, that goes with the significand. -/
def scaleOf (a : Nat) : Nat := max (a / 2 ^ 52) 1 - 1

/-- The point half way between a magnitude and the next one. -/
def halfway (a : Nat) : Nat := (4 * significandOf a + 2) * 2 ^ scaleOf a

/-- How far a magnitude lies over the point below, in quarters of its own last place. -/
def distanceBelow (a : Nat) : Nat := if significandOf a = 2 ^ 52 ∧ 1 < a / 2 ^ 52 then 1 else 2

/-- The point below a magnitude is the one above the magnitude before. -/
lemma halfway_below (a : Nat) :
    (4 * significandOf (a + 1) - distanceBelow (a + 1)) * 2 ^ scaleOf (a + 1) = halfway a := by
  rw [halfway, distanceBelow]
  by_cases hpower : (a + 1) % 2 ^ 52 = 0 ∧ 1 < (a + 1) / 2 ^ 52
  · -- from a power of two downward the numbers stand twice as close
    have hnext : significandOf (a + 1) = 2 ^ 52 := by
      rw [significandOf, if_neg (by omega), hpower.1, Nat.add_zero]
    have hlast : significandOf a = 2 ^ 53 - 1 := by
      rw [significandOf, if_neg (by omega)]
      omega
    have hscale : scaleOf (a + 1) = scaleOf a + 1 := by
      rw [scaleOf, scaleOf]
      omega
    rw [if_pos ⟨hnext, hpower.2⟩, hnext, hlast, hscale, Nat.pow_succ]
    omega
  · have hnext : significandOf (a + 1) = significandOf a + 1 := by
      rw [significandOf, significandOf]
      split_ifs <;> omega
    have hscale : scaleOf (a + 1) = scaleOf a := by
      rw [scaleOf, scaleOf]
      omega
    have hbelow : ¬ (significandOf (a + 1) = 2 ^ 52 ∧ 1 < (a + 1) / 2 ^ 52) := by
      rw [significandOf]
      split_ifs <;> omega
    have hpoint : 4 * (significandOf a + 1) - 2 = 4 * significandOf a + 2 := by omega
    rw [if_neg hbelow, hnext, hscale, hpoint]

lemma significandOf_pos {a : Nat} (h : 0 < a) : 0 < significandOf a := by
  rw [significandOf]
  split_ifs <;> omega

lemma significandOf_mod_two (a : Nat) : significandOf a % 2 = a % 2 := by
  rw [significandOf]
  split_ifs <;> omega

lemma halfway_strictMono : StrictMono halfway := by
  apply strictMono_nat_of_lt_succ
  intro a
  rw [← halfway_below, halfway]
  have hsignificand := significandOf_pos (Nat.succ_pos a)
  apply Nat.mul_lt_mul_of_pos_right _ (Nat.two_pow_pos (scaleOf (a + 1)))
  omega

/-! ### What reads back -/

/-- The values that read back as a magnitude, in quarters of the smallest number. -/
def Nearest (a : Nat) (v : ℚ) : Prop :=
  if a % 2 = 0 then halfway (a - 1) ≤ v ∧ v ≤ halfway a
  else halfway (a - 1) < v ∧ v < halfway a

namespace Nearest

variable {a b : Nat} {v : ℚ}

lemma between (h : Nearest a v) : halfway (a - 1) ≤ v ∧ v ≤ halfway a := by
  rw [Nearest] at h
  split_ifs at h
  · exact h
  · exact ⟨h.1.le, h.2.le⟩

lemma even_of_eq_halfway (h : Nearest a v) (hv : v = halfway (a - 1) ∨ v = halfway a) :
    a % 2 = 0 := by
  by_contra hodd
  rw [Nearest, if_neg hodd] at h
  rcases hv with rfl | rfl
  · exact lt_irrefl _ h.1
  · exact lt_irrefl _ h.2

lemma pos (h : Nearest a v) : 0 < v := by
  have hpoint : 0 < halfway (a - 1) := Nat.mul_pos (Nat.succ_pos _) (Nat.two_pow_pos _)
  have hcast : (0 : ℚ) < halfway (a - 1) := by exact_mod_cast hpoint
  exact lt_of_lt_of_le hcast h.between.1

/-- No value reads back as two magnitudes. A point between two of them belongs to the even one. -/
lemma not_lt (ha : Nearest a v) (hb : Nearest b v) : ¬ a < b := by
  intro hab
  have hle : halfway a ≤ halfway (b - 1) := halfway_strictMono.monotone (Nat.le_sub_one_of_lt hab)
  have hge : (halfway (b - 1) : ℚ) ≤ halfway a := hb.between.1.trans ha.between.2
  have hpoint : halfway a = halfway (b - 1) := le_antisymm hle (by exact_mod_cast hge)
  have hnext : a = b - 1 := halfway_strictMono.injective hpoint
  have hv : v = halfway a := by
    apply le_antisymm ha.between.2
    rw [hpoint]
    exact hb.between.1
  have haeven := ha.even_of_eq_halfway (.inr hv)
  have hbeven := hb.even_of_eq_halfway (.inl (hpoint ▸ hv))
  omega

lemma unique (ha : Nearest a v) (hb : Nearest b v) : a = b :=
  Nat.le_antisymm (Nat.not_lt.mp (hb.not_lt ha)) (Nat.not_lt.mp (ha.not_lt hb))

end Nearest

/-! ### The interval around a number -/

variable {x : Number}

lemma exponent_eq (x : Number) : x.exponent - 2 = (scaleOf x.magnitude : Int) + -1076 := by
  have hscale : scaleOf x.magnitude = max x.biasedExponent 1 - 1 := rfl
  rw [exponent, hscale]
  omega

/-- A power of two as a whole number of units of a power of ten. -/
lemma cast_unit (q : Int) :
    ((if q < 0 then Nat.pow 5 (-q).toNat else Nat.pow 2 q.toNat : Nat) : ℚ) =
      2 ^ q * 10 ^ (-q).toNat := by
  split_ifs with hq
  · obtain ⟨n, rfl⟩ := Int.exists_eq_neg_ofNat hq.le
    rw [neg_neg, Int.toNat_natCast, zpow_neg, zpow_natCast, Nat.pow_eq, Nat.cast_pow]
    have hten : (10 : ℚ) ^ n = 2 ^ n * 5 ^ n := by
      rw [← mul_pow]
      norm_num
    rw [hten]
    field_simp
    simp
  · obtain ⟨n, rfl⟩ := Int.eq_ofNat_of_zero_le (not_lt.mp hq)
    simp

/-- The units of the interval are such that a quarter of the last place is a whole number of
them. -/
lemma around_unit (x : Number) : ∃ unit : Nat, 0 < unit ∧
    (unit : ℚ) = 2 ^ scaleOf x.magnitude * (2 ^ (-1076 : Int) * 10 ^ (Interval.around x).places) ∧
    (Interval.around x).value = 4 * significandOf x.magnitude * unit ∧
    (Interval.around x).lower =
      (4 * significandOf x.magnitude - distanceBelow x.magnitude) * unit ∧
    (Interval.around x).upper = (4 * significandOf x.magnitude + 2) * unit := by
  refine ⟨_, ?_, ?_, rfl, rfl, rfl⟩
  · split_ifs
    · exact Nat.pow_pos (by decide)
    · exact Nat.pow_pos (by decide)
  · have hplaces : (Interval.around x).places = (-(x.exponent - 2)).toNat := rfl
    rw [hplaces, cast_unit, exponent_eq, zpow_add₀ (by norm_num), zpow_natCast, mul_assoc]

lemma around_has_value (h : 0 < x.magnitude) :
    (Interval.around x).has (Interval.around x).value = true := by
  obtain ⟨unit, hunit, -, hvalue, hlower, hupper⟩ := around_unit x
  have hsignificand := significandOf_pos h
  have hbelow : (Interval.around x).lower < (Interval.around x).value := by
    rw [hlower, hvalue]
    apply Nat.mul_lt_mul_of_pos_right _ hunit
    rw [distanceBelow]
    split_ifs <;> omega
  have habove : (Interval.around x).value < (Interval.around x).upper := by
    rw [hupper, hvalue]
    exact Nat.mul_lt_mul_of_pos_right (by omega) hunit
  rw [Interval.has]
  split_ifs <;> simp [hbelow, habove, hbelow.le, habove.le]

/-- What the interval around a number contains reads back as its magnitude. -/
lemma nearest_of_contains (h : 0 < x.magnitude) {v : ℚ}
    (hv : (Interval.around x).Contains (v * 10 ^ (Interval.around x).places)) :
    Nearest x.magnitude (v * 2 ^ 1076) := by
  obtain ⟨unit, -, hunit, -, hlower, hupper⟩ := around_unit x
  obtain ⟨a, ha⟩ : ∃ a, x.magnitude = a + 1 := Nat.exists_eq_add_one.mpr h
  set c : ℚ := 2 ^ (-1076 : Int) * 10 ^ (Interval.around x).places with hc
  have hpos : 0 < c := mul_pos (zpow_pos (by norm_num) _) (pow_pos (by norm_num) _)
  have hlow : ((Interval.around x).lower : ℚ) = halfway a * c := by
    rw [hlower, Nat.cast_mul, hunit, ← halfway_below, Nat.cast_mul, ha]
    push_cast
    ring
  have hhigh : ((Interval.around x).upper : ℚ) = halfway (a + 1) * c := by
    rw [hupper, Nat.cast_mul, hunit, halfway, Nat.cast_mul, ha]
    push_cast
    ring
  have hunits : v * 10 ^ (Interval.around x).places = v * 2 ^ 1076 * c := by
    rw [hc, zpow_neg]
    field_simp
  have hclosed : (Interval.around x).closed = decide (x.magnitude % 2 = 0) := by
    rw [← significandOf_mod_two]
    rfl
  rw [Interval.Contains, hclosed, hlow, hhigh, hunits] at hv
  rw [Nearest, ha, Nat.add_sub_cancel]
  rw [ha] at hv
  simpa only [decide_eq_true_eq, mul_le_mul_iff_left₀ hpos, mul_lt_mul_iff_left₀ hpos] using hv

/-- The shortest decimal of a number reads back as its magnitude. -/
lemma nearest_shortest (h : 0 < x.magnitude) (tie : Decimal.Tie) :
    Nearest x.magnitude ((Decimal.shortest tie x).value * 2 ^ 1076) := by
  apply nearest_of_contains h
  have hzero : x.isZero = false := by simpa [isZero] using h.ne'
  rw [Decimal.shortest, hzero]
  exact Interval.contains_shortest (around_has_value h) tie

end CardSearch.Number
