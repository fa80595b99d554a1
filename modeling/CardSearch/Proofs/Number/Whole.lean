import CardSearch.Number
import Mathlib.Tactic.Common

/-!
# Whole numbers as binary64 numbers

The nearest number to a whole number, `Number.ofInt`, is a number. A machine float is made by
unpacking bits into a sign, a significand and an exponent, computing there, and packing the result;
what comes out is not a number only if it was none before it was packed.
-/

namespace CardSearch.Number

open Float.Model

/-! ### Packing -/

/-- What is unpacked is not a number if and only if the exponent is all ones and the fraction is not
zero. -/
private lemma unpack_eq_notANumber_iff (bits : BitVec Format.binary64.numBits) :
    UnpackedFloat.unpack Format.binary64 bits = .notANumber ↔
      UnpackedFloat.unpackExponent bits = -1#11 ∧ UnpackedFloat.unpackMantissa bits ≠ 0#52 := by
  unfold UnpackedFloat.unpack
  extract_lets fraction exponentBits exponent signBits sign
  by_cases he : exponentBits = -1#11
  · rw [if_pos he]
    by_cases hm : fraction = 0#52
    · rw [if_pos hm]
      exact ⟨nofun, fun h => absurd hm h.2⟩
    · rw [if_neg hm]
      exact ⟨fun _ => ⟨he, hm⟩, fun _ => rfl⟩
  · rw [if_neg he]
    refine ⟨fun h => ?_, fun h => absurd h.1 he⟩
    rcases ite_eq_iff.mp h with ⟨-, h⟩ | ⟨-, h⟩
    · rcases dite_eq_iff.mp h with ⟨_, h⟩ | ⟨_, h⟩
      · cases h
      · cases h
    · cases h

private lemma unpack_pack_ne_notANumber {u : UnpackedFloat} (h : u ≠ .notANumber) :
    (pack u).unpack ≠ .notANumber := by
  change UnpackedFloat.unpack Format.binary64 (UnpackedFloat.pack Format.binary64 u) ≠ _
  rw [Ne, unpack_eq_notANumber_iff, not_and, not_not]
  fun_cases UnpackedFloat.pack Format.binary64 u with
  | case1 => exact absurd rfl h
  | case2 s => simp [UnpackedFloat.packedInfinity]
  | case3 s => simp [UnpackedFloat.packedZero]
  | case4 s m e hm biased hb => simp [UnpackedFloat.packedInfinity]
  | case5 s m e hm bits biased hb hn =>
    -- the exponent of a finite number stays below the one that is kept for the infinities
    have hlt : biased + 1 < 2048 := Nat.lt_of_not_le hb
    rw [UnpackedFloat.unpackExponent_packComponents]
    intro he
    have hnat := congrArg BitVec.toNat he
    rw [BitVec.toNat_ofNat, Nat.mod_eq_of_lt (by omega)] at hnat
    simp at hnat
    omega
  | case6 s m e hm bits biased hb hn => simp

/-- Above the magnitude of the infinities the exponent is all ones and the fraction is not zero. -/
lemma isNaN_ofFloat_eq_false {f : Float} (h : f.toModel.unpack ≠ .notANumber) :
    (ofFloat f).isNaN = false := by
  rw [isNaN, decide_eq_false_iff_not, magnitude, infiniteMagnitude, ofFloat]
  intro hlt
  simp only [Nat.pow_eq, Nat.reducePow, Nat.reduceMul] at hlt
  have hx : f.toBits.toNat < UInt64.size := f.toBits.toNat_lt_size
  have he : @UnpackedFloat.unpackExponent Format.binary64 f.toBits.toBitVec = -1#11 := by
    apply BitVec.eq_of_toNat_eq
    simp [UnpackedFloat.unpackExponent, Nat.shiftRight_eq_div_pow]
    omega
  have hm : @UnpackedFloat.unpackMantissa Format.binary64 f.toBits.toBitVec ≠ 0#52 := by
    intro h0
    have hnat := congrArg BitVec.toNat h0
    simp [UnpackedFloat.unpackMantissa] at hnat
    omega
  exact h ((unpack_eq_notANumber_iff _).mpr ⟨he, hm⟩)

/-! ### Rounding -/

private lemma roundWithAccuracy_ne_notANumber (s : UnpackedFloat.Sign) (m : Nat) (e : Int)
    (accuracy : UnpackedFloat.Accuracy) :
    UnpackedFloat.roundWithAccuracy Format.binary64 s m e accuracy ≠ .notANumber := by
  intro h
  rcases dite_eq_iff.mp h with ⟨_, h⟩ | ⟨_, h⟩
  · cases h
  · cases h

private lemma normalize_ne_notANumber (n e : Int) (s : UnpackedFloat.Sign) :
    UnpackedFloat.normalize Format.binary64 n e s ≠ .notANumber := by
  unfold UnpackedFloat.normalize
  split
  · exact roundWithAccuracy_ne_notANumber _ _ _ _
  · exact nofun
  · exact roundWithAccuracy_ne_notANumber _ _ _ _

private lemma mul_finite_ne_notANumber {u : UnpackedFloat} (hu : u ≠ .notANumber)
    {s : UnpackedFloat.Sign} {m : Nat} {e : Int} (hm : 0 < m) :
    UnpackedFloat.mul Format.binary64 u (.finite s m e hm) ≠ .notANumber := by
  cases u with
  | notANumber => exact absurd rfl hu
  | infinity => exact nofun
  | zero => exact nofun
  | finite => exact roundWithAccuracy_ne_notANumber _ _ _ _

private lemma ofScientific_ne_notANumber (n : Nat) (e : Int) (he : 0 ≤ e) :
    UnpackedFloat.ofScientific Format.binary64 n e ≠ .notANumber := by
  intro h
  rcases dite_eq_iff.mp h with ⟨_, h⟩ | ⟨_, h⟩
  · cases h
  rcases ite_eq_iff.mp h with ⟨-, h⟩ | ⟨-, h⟩
  · cases h
  rcases ite_eq_iff.mp h with ⟨-, h⟩ | ⟨-, h⟩
  · cases h
  rw [if_pos he] at h
  refine mul_finite_ne_notANumber ?_ _ h
  exact nofun

private lemma unpack_one :
    (Float.ofBits 0x3FF0000000000000).toModel.unpack =
      .finite .positive 4503599627370496 (-52) (by decide) := rfl

/-! ### Whole numbers -/

lemma isNaN_ofNat (n : Nat) : (ofNat n).isNaN = false := by
  apply isNaN_ofFloat_eq_false
  have hof : Float.ofNat n = Float.ofScientific n false 0 := rfl
  rw [hof, Float.ofScientific]
  split
  next h =>
    -- below `2 ^ 53` the number itself is packed, and then multiplied by one
    refine unpack_pack_ne_notANumber ?_
    change UnpackedFloat.mul _ _ (Float.ofBits 0x3FF0000000000000).toModel.unpack ≠ _
    rw [unpack_one]
    apply mul_finite_ne_notANumber
    exact unpack_pack_ne_notANumber (normalize_ne_notANumber _ _ _)
  next h => exact unpack_pack_ne_notANumber (ofScientific_ne_notANumber n 0 (Int.le_refl 0))

lemma isNaN_neg (x : Number) : x.neg.isNaN = x.isNaN := by
  have h : x.neg.magnitude = x.magnitude := by
    rw [magnitude, magnitude, neg, UInt64.toNat_xor, Nat.pow_eq, Nat.xor_mod_two_pow]
    exact Nat.xor_zero _
  rw [isNaN, isNaN, h]

theorem isNaN_ofInt (n : Int) : (ofInt n).isNaN = false := by
  cases n with
  | ofNat n => exact isNaN_ofNat n
  | negSucc n =>
    rw [ofInt, isNaN_neg]
    exact isNaN_ofNat (n + 1)

end CardSearch.Number
