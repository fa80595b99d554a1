import CardSearch.Decimal.Layout
import CardSearch.Decimal.Reading
import Mathlib.Algebra.Field.Rat
import Mathlib.Algebra.GroupWithZero.Units.Lemmas
import Mathlib.Data.List.TakeWhile
import Mathlib.Tactic.Ring

/-!
# Decimals that are written out in full

A decimal that is written out in full is read back as a decimal of the same value. Zeros in front
and at the end stand for nothing but their places, so the decimal itself need not come back.
-/

namespace CardSearch.Decimal

/-- The number that a decimal stands for. -/
def value (d : Decimal) : ℚ := d.digits * 10 ^ d.exponent

/-! ### Digits -/

lemma ofDigits_append (xs ys : List Char) :
    ofDigits (xs ++ ys) = 10 ^ ys.length * ofDigits xs + ofDigits ys :=
  (Nat.ofDigitChars_append 0).trans Nat.ofDigitChars_eq_ofDigitChars_zero

@[simp] lemma ofDigits_replicate_zero (n : Nat) : ofDigits (List.replicate n '0') = 0 :=
  Nat.ofDigitChars_replicate_zero.trans (Nat.mul_zero _)

@[simp] lemma ofDigits_digitList (n : Nat) : ofDigits (digitList n) = n :=
  Nat.ofDigitChars_ten_toDigits

/-- Nothing but digits. -/
def AllDigits (cs : List Char) : Prop := ∀ c ∈ cs, c.isDigit = true

lemma AllDigits.append {xs ys : List Char} (hx : AllDigits xs) (hy : AllDigits ys) :
    AllDigits (xs ++ ys) :=
  List.forall_mem_append.mpr ⟨hx, hy⟩

lemma allDigits_digitList (n : Nat) : AllDigits (digitList n) :=
  fun _ hc => Nat.isDigit_of_mem_toDigits (by decide) (by decide) hc

lemma allDigits_replicate_zero (n : Nat) : AllDigits (List.replicate n '0') := by
  intro c hc
  rw [List.eq_of_mem_replicate hc]
  rfl

lemma digitList_ne_nil (n : Nat) : digitList n ≠ [] := Nat.toDigits_ne_nil

lemma AllDigits.takeDigits {ds : List Char} (h : AllDigits ds) :
    Decimal.takeDigits ds = (ds, []) := by
  rw [Decimal.takeDigits, List.takeWhile_eq_self_iff.mpr h, List.dropWhile_eq_nil_iff.mpr h]

lemma AllDigits.takeDigits_point {ds : List Char} (h : AllDigits ds) (rest : List Char) :
    Decimal.takeDigits (ds ++ '.' :: rest) = (ds, '.' :: rest) := by
  rw [Decimal.takeDigits, List.takeWhile_append_of_pos h, List.dropWhile_append_of_pos h]
  simp

/-! ### Reading what is written -/

lemma read?_of_allDigits {ds : List Char} (h : AllDigits ds) (hne : ds ≠ []) :
    read? ds = some ⟨ofDigits ds, 0⟩ := by
  simp [read?, h.takeDigits, hne, readExponent?]

lemma read?_of_point {whole fraction : List Char} {d : Decimal} (hwhole : AllDigits whole)
    (hne : whole ≠ []) (hfraction : AllDigits fraction)
    (hdigits : ofDigits (whole ++ fraction) = d.digits)
    (hexponent : -(fraction.length : Int) = d.exponent) :
    read? (whole ++ '.' :: fraction) = some d := by
  simp [read?, hwhole.takeDigits_point, hfraction.takeDigits, hne, readExponent?, hdigits,
    hexponent]

/-- What is written out in full is read back as the same value. -/
lemma exists_read?_inFull (d : Decimal) :
    ∃ d', read? (inFull "" d).toList = some d' ∧ d'.value = d.value := by
  have hds := allDigits_digitList d.digits
  have hnil := digitList_ne_nil d.digits
  have hof := ofDigits_digitList d.digits
  rw [inFull]
  generalize digitList d.digits = ds at hds hnil hof ⊢
  split_ifs with hwhole hpoint
  · -- zeros stand behind the digits
    have hall := hds.append (allDigits_replicate_zero d.exponent.toNat)
    refine ⟨_, by simpa using read?_of_allDigits hall (by simp [hnil]), ?_⟩
    obtain ⟨n, hn⟩ := Int.eq_ofNat_of_zero_le hwhole
    rw [value, value, ofDigits_append, hof]
    simp [hn, mul_comm]
  · -- the point stands among the digits
    refine ⟨d, ?_, rfl⟩
    rw [String.toList_ofList]
    apply read?_of_point
    · exact fun c hc => hds c (List.mem_of_mem_take hc)
    · rw [ne_eq, List.take_eq_nil_iff]
      simp only [hnil, or_false]
      omega
    · exact fun c hc => hds c (List.mem_of_mem_drop hc)
    · rw [List.take_append_drop, hof]
    · rw [List.length_drop]
      omega
  · -- zeros stand between the point and the digits
    refine ⟨d, ?_, rfl⟩
    have htext (rest : List Char) :
        ("0." ++ String.ofList rest).toList = List.replicate 1 '0' ++ '.' :: rest := by simp
    rw [htext]
    apply read?_of_point (allDigits_replicate_zero 1) (by simp)
    · exact (allDigits_replicate_zero _).append hds
    · rw [ofDigits_append, ofDigits_append, hof, ofDigits_replicate_zero, ofDigits_replicate_zero,
        Nat.mul_zero, Nat.mul_zero, Nat.zero_add, Nat.zero_add]
    · rw [List.length_append, List.length_replicate]
      omega

end CardSearch.Decimal
