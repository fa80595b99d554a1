import CardSearch.Proofs.Number.Spacing
import Mathlib.Tactic.NormNum

/-!
# The plain form tells numbers apart

Numbers that are written the same in the plain form are the same: the sign can be taken off the
text, what is left of a finite number reads back as a decimal, and no decimal stands for two
magnitudes. The two zeros are written differently.
-/

namespace CardSearch

namespace Decimal

variable {cs : List Char}

/-- What is read as a decimal has no sign in front. -/
lemma takeSign_of_read?_isSome (h : (read? cs).isSome) : takeSign cs = (false, cs) := by
  fun_cases takeSign cs with
  | case1 cs => simp [read?, takeDigits] at h
  | case2 cs => simp [read?, takeDigits] at h
  | case3 cs => rfl

end Decimal

namespace Number

open Decimal (Layout)

variable {x y : Number}

/-! ### Magnitude and sign -/

lemma eq_of_magnitude_eq (hsign : x.isNegative = y.isNegative)
    (hmagnitude : x.magnitude = y.magnitude) : x = y := by
  have hx := x.bits.toNat_lt
  have hy := y.bits.toNat_lt
  have hbits : x.bits.toNat = y.bits.toNat := by
    simp only [isNegative, magnitude, Nat.pow_eq, decide_eq_decide] at hsign hmagnitude
    omega
  cases x
  cases y
  exact congrArg Number.mk (UInt64.toNat_inj.mp hbits)

/-- Both zeros have the same place in the order, and no other two numbers do. -/
lemma rank_eq_iff : x.rank = y.rank ↔ x = y ∨ x.isZero ∧ y.isZero := by
  constructor
  · intro h
    by_cases hsign : x.isNegative = y.isNegative
    · left
      apply eq_of_magnitude_eq hsign
      rw [rank, rank, hsign] at h
      split_ifs at h <;> omega
    · right
      rw [isZero, isZero, decide_eq_true_eq, decide_eq_true_eq]
      rw [rank, rank] at h
      split_ifs at h with hx hy hy
      · exact absurd (hx.trans hy.symm) hsign
      · omega
      · omega
      · simp [hx, hy] at hsign
  · rintro (rfl | ⟨hx, hy⟩)
    · rfl
    · rw [isZero, decide_eq_true_eq] at hx hy
      simp [rank, hx, hy]

/-! ### The text of a number -/

/-- The plain form without the sign. -/
def unsigned (x : Number) : List Char :=
  if x.isInfinite then "inf".toList else (Decimal.inFull "" (Decimal.shortest .up x)).toList

lemma takeSign_unsigned (x : Number) : Decimal.takeSign x.unsigned = (false, x.unsigned) := by
  rw [unsigned]
  split_ifs
  · rfl
  · obtain ⟨d, hd, -⟩ := Decimal.exists_read?_inFull (Decimal.shortest .up x)
    exact Decimal.takeSign_of_read?_isSome (by simp [hd])

lemma toList_write_plain (h : x.isNaN = false) :
    (x.write Layout.plain).toList = (if x.isNegative then ['-'] else []) ++ x.unsigned := by
  have hplain (d : Decimal) : d.write Layout.plain = Decimal.inFull "" d := rfl
  have htie : Layout.plain.tie = .up := rfl
  rw [write, if_neg (by simp [h]), unsigned, hplain, htie]
  dsimp only
  split_ifs <;> simp

lemma takeSign_write_plain (h : x.isNaN = false) :
    Decimal.takeSign (x.write Layout.plain).toList = (x.isNegative, x.unsigned) := by
  rw [toList_write_plain h]
  cases x.isNegative with
  | true => rfl
  | false => exact x.takeSign_unsigned

lemma magnitude_eq_of_value_eq {tie : Decimal.Tie}
    (h : (Decimal.shortest tie x).value = (Decimal.shortest tie y).value) :
    x.magnitude = y.magnitude := by
  have hzero {z : Number} (hz : z.magnitude = 0) : (Decimal.shortest tie z).value = 0 := by
    simp [Decimal.shortest, isZero, hz, Decimal.value]
  have hpos {z : Number} (hz : 0 < z.magnitude) : (Decimal.shortest tie z).value ≠ 0 := by
    intro h0
    have := (nearest_shortest hz tie).pos
    simp [h0] at this
  rcases Nat.eq_zero_or_pos x.magnitude with hx | hx
  · rcases Nat.eq_zero_or_pos y.magnitude with hy | hy
    · rw [hx, hy]
    · exact absurd (h.symm.trans (hzero hx)) (hpos hy)
  · rcases Nat.eq_zero_or_pos y.magnitude with hy | hy
    · exact absurd (h.trans (hzero hy)) (hpos hx)
    · have hvalue := nearest_shortest hx tie
      rw [h] at hvalue
      exact hvalue.unique (nearest_shortest hy tie)

lemma read?_unsigned (h : x.isInfinite = false) :
    ∃ d, Decimal.read? x.unsigned = some d ∧ d.value = (Decimal.shortest .up x).value := by
  rw [unsigned, h]
  exact Decimal.exists_read?_inFull (Decimal.shortest .up x)

lemma read?_unsigned_eq_none (h : x.isInfinite = true) : Decimal.read? x.unsigned = none := by
  rw [unsigned, if_pos h]
  decide

lemma magnitude_eq_of_unsigned_eq (h : x.unsigned = y.unsigned) : x.magnitude = y.magnitude := by
  cases hx : x.isInfinite with
  | true =>
    cases hy : y.isInfinite with
    | true => rw [of_decide_eq_true hx, of_decide_eq_true hy]
    | false =>
      obtain ⟨d, hd, -⟩ := read?_unsigned hy
      rw [← h, read?_unsigned_eq_none hx] at hd
      cases hd
  | false =>
    obtain ⟨d, hd, hdx⟩ := read?_unsigned hx
    cases hy : y.isInfinite with
    | true =>
      rw [h, read?_unsigned_eq_none hy] at hd
      cases hd
    | false =>
      obtain ⟨e, he, hey⟩ := read?_unsigned hy
      rw [← h, hd, Option.some.injEq] at he
      exact magnitude_eq_of_value_eq (hdx.symm.trans (he ▸ hey))

/-- Numbers that are written the same in the plain form are the same. -/
lemma write_plain_inj (hx : x.isNaN = false) (hy : y.isNaN = false) :
    x.write Layout.plain = y.write Layout.plain ↔ x = y := by
  constructor
  · intro h
    have hsplit := takeSign_write_plain hx
    rw [h, takeSign_write_plain hy, Prod.mk.injEq] at hsplit
    exact eq_of_magnitude_eq hsplit.1.symm (magnitude_eq_of_unsigned_eq hsplit.2.symm)
  · rintro rfl
    rfl

end Number

end CardSearch
