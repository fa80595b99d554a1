import CardSearch.Decimal.Shortest
import CardSearch.Proofs.Decimal.InFull
import Mathlib.Data.Nat.Cast.Order.Field
import Mathlib.Tactic.FieldSimp

/-!
# Shortest decimals

Whatever decimal the search for the fewest digits ends with, it lies in the interval: a grid of
decimals is left only with a hit, and without any the value itself is taken.
-/

namespace CardSearch.Decimal

lemma value_trimZeros (n : Nat) (e : Int) : (trimZeros n e).value = n * 10 ^ e := by
  fun_induction trimZeros n e with
  | case1 n e h ih =>
    have hn : (n : ℚ) = (n / 10 : Nat) * 10 := by
      exact_mod_cast (Nat.div_mul_cancel (Nat.dvd_of_mod_eq_zero h.2)).symm
    rw [ih, hn, zpow_add_one₀ (by norm_num : (10 : ℚ) ≠ 0)]
    ring
  | case2 n e h => rfl

namespace Interval

variable {i : Interval} {tie : Tie}

/-- The values in an interval, in its units. -/
def Contains (i : Interval) (v : ℚ) : Prop :=
  if i.closed then i.lower ≤ v ∧ v ≤ i.upper else i.lower < v ∧ v < i.upper

lemma contains_natCast_iff {d : Nat} : i.Contains d ↔ i.has d = true := by
  rw [Contains, has]
  split_ifs <;> simp

lemma has_of_nearest?_eq_some {step d : Nat} (h : i.nearest? tie step = some d) :
    i.has (d * step) = true := by
  unfold nearest? at h
  dsimp only at h
  split at h
  · cases h
  · next hbelow _ =>
    cases h
    exact hbelow
  · next _ habove =>
    cases h
    exact habove
  · next hbelow habove =>
    -- a tie between two hits goes to one of them, whichever it is
    have hd : d = i.value / step ∨
        d = if i.value % step = 0 then i.value / step else i.value / step + 1 := by
      split at h
      · exact .inl (Option.some.inj h).symm
      · exact .inr (Option.some.inj h).symm
      · split at h
        · exact .inr (Option.some.inj h).symm
        · rw [Option.some.injEq, ite_eq_iff] at h
          rcases h with ⟨-, rfl⟩ | ⟨-, rfl⟩
          · exact .inl rfl
          · exact .inr rfl
    rcases hd with rfl | rfl
    · exact hbelow
    · exact habove

lemma contains_trimZeros {digits spare : Nat} (h : i.has (digits * 10 ^ spare) = true) :
    i.Contains ((trimZeros digits (spare - i.places)).value * 10 ^ i.places) := by
  have hunits : (trimZeros digits (spare - i.places)).value * 10 ^ i.places =
      (digits * 10 ^ spare : Nat) := by
    have hten : (10 : ℚ) ≠ 0 := by norm_num
    rw [value_trimZeros, zpow_sub₀ hten, zpow_natCast, zpow_natCast]
    push_cast
    field_simp
  rw [hunits, contains_natCast_iff]
  exact h

/-- The shortest decimal lies in the interval. -/
lemma contains_shortest (hvalue : i.has i.value = true) (tie : Tie) :
    i.Contains ((i.shortest tie).value * 10 ^ i.places) := by
  unfold shortest
  dsimp only
  cases hsearch : List.findSome? _ (List.range 17) with
  | none =>
    apply contains_trimZeros
    simpa using hvalue
  | some hit =>
    obtain ⟨n, -, hn⟩ := List.exists_of_findSome?_eq_some hsearch
    obtain ⟨d, hd, rfl⟩ := Option.map_eq_some_iff.mp hn
    exact contains_trimZeros (has_of_nearest?_eq_some hd)

end Interval

end CardSearch.Decimal
