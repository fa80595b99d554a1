import CardSearch.Text.Quoted
import Mathlib.Data.List.Basic
import Mathlib.Tactic.Common

/-!
# Reading quoted texts

A quoted text says what it quotes and where it ends: where two texts that begin with a quoted text
are equal, the same is quoted, and the rest is the same. A character is written as itself, with a
backslash and a letter, or with its code point, and the first two characters tell which.
-/

namespace CardSearch.Text

/-! ### Hexadecimal digits -/

lemma digitChar_inj : ∀ i < 16, ∀ j < 16, Nat.digitChar i = Nat.digitChar j → i = j := by decide

lemma toDigits_inj {m n : Nat} (h : Nat.toDigits 16 m = Nat.toDigits 16 n) : m = n := by
  induction m using Nat.strongRecOn generalizing n with
  | ind m ih =>
    rw [Nat.toDigits_eq_if (by decide) (n := m), Nat.toDigits_eq_if (by decide) (n := n)] at h
    split_ifs at h with hm hn hn
    · exact digitChar_inj m hm n hn (List.singleton_inj.mp h)
    · simp [List.singleton_eq_append_iff] at h
    · simp [List.append_eq_singleton_iff] at h
    · obtain ⟨hdiv, hmod⟩ := List.append_inj' h rfl
      have hdiv := ih (m / 16) (by omega) hdiv
      have hmod := digitChar_inj _ (Nat.mod_lt _ (by decide)) _ (Nat.mod_lt _ (by decide))
        (List.singleton_inj.mp hmod)
      omega

lemma brace_notMem_toDigits (n : Nat) : '}' ∉ Nat.toDigits 16 n := by
  induction n using Nat.base_induction 16 (by decide) with
  | single m hm =>
    rw [Nat.toDigits_of_lt_base hm, List.mem_singleton]
    exact (Nat.digitChar_ne '}' (by decide)).symm
  | digit m k hk hm ih =>
    rw [← Nat.toDigits_append_toDigits (by decide) hm hk, Nat.toDigits_of_lt_base hk,
      List.mem_append, List.mem_singleton, not_or]
    exact ⟨ih, (Nat.digitChar_ne '}' (by decide)).symm⟩

/-! ### One character -/

/-- The first place of a character divides a text in one way only. -/
lemma append_cons_inj {d : Char} {u v x y : List Char} (hu : d ∉ u) (hv : d ∉ v)
    (h : u ++ d :: x = v ++ d :: y) : u = v ∧ x = y := by
  induction u generalizing v with
  | nil =>
    cases v with
    | nil => exact ⟨rfl, (List.cons.inj h).2⟩
    | cons b v =>
      rw [List.nil_append, List.cons_append, List.cons.injEq] at h
      exact absurd (h.1 ▸ List.mem_cons_self) hv
  | cons a u ih =>
    cases v with
    | nil =>
      rw [List.nil_append, List.cons_append, List.cons.injEq] at h
      exact absurd (h.1 ▸ List.mem_cons_self) hu
    | cons b v =>
      rw [List.cons_append, List.cons_append, List.cons.injEq] at h
      rw [List.mem_cons, not_or] at hu hv
      obtain ⟨rfl, rfl⟩ := ih hu.2 hv.2 h.2
      exact ⟨by rw [h.1], rfl⟩

/-- The characters that are written with a backslash and a letter, and the letters. -/
def letterEscapes : List (Char × Char) :=
  [('"', '"'), ('\\', '\\'), ('\n', 'n'), ('\r', 'r'), ('\t', 't'), ('\x00', '0')]

lemma letterEscapes_inj :
    ∀ p ∈ letterEscapes, ∀ q ∈ letterEscapes, p.2 = q.2 → p.1 = q.1 := by decide

lemma ne_u_of_mem_letterEscapes : ∀ p ∈ letterEscapes, p.2 ≠ 'u' := by decide

/-- The ways of writing a character. -/
inductive Written (c : Char) : List Char → Prop where
  | alone (hq : c ≠ '"') (hb : c ≠ '\\') : Written c [c]
  | letter {k : Char} (hk : (c, k) ∈ letterEscapes) : Written c ['\\', k]
  | code : Written c ('\\' :: 'u' :: '{' :: (Nat.toDigits 16 c.toNat ++ ['}']))

lemma written_escapeChar (c : Char) : Written c (escapeChar c) := by
  rw [escapeChar]
  split_ifs with hq hb hn hr ht hz hs
  · exact .letter (by simp [hq, letterEscapes])
  · exact .letter (by simp [hb, letterEscapes])
  · exact .letter (by simp [hn, letterEscapes])
  · exact .letter (by simp [hr, letterEscapes])
  · exact .letter (by simp [ht, letterEscapes])
  · exact .letter (by simp [hz, letterEscapes])
  · exact .alone hq hb
  · exact .code

/-- A written character is the same as another where the texts that begin with them are. -/
lemma Written.append_inj {c d : Char} {u v x y : List Char} (hc : Written c u) (hd : Written d v)
    (h : u ++ x = v ++ y) : c = d ∧ x = y := by
  cases hc with
  | alone hq hb =>
    cases hd with
    | alone hq' hb' => simpa using h
    | letter hk' => exact absurd (List.cons.inj h).1 hb
    | code => exact absurd (List.cons.inj h).1 hb
  | letter hk =>
    cases hd with
    | alone hq' hb' => exact absurd (List.cons.inj h).1.symm hb'
    | letter hk' =>
      simp only [List.cons_append, List.nil_append, List.cons.injEq, true_and] at h
      exact ⟨letterEscapes_inj _ hk _ hk' h.1, h.2⟩
    | code =>
      simp only [List.cons_append, List.nil_append, List.cons.injEq, true_and] at h
      exact absurd h.1 (ne_u_of_mem_letterEscapes _ hk)
  | code =>
    cases hd with
    | alone hq' hb' => exact absurd (List.cons.inj h).1.symm hb'
    | letter hk' =>
      simp only [List.cons_append, List.nil_append, List.cons.injEq, true_and] at h
      exact absurd h.1.symm (ne_u_of_mem_letterEscapes _ hk')
    | code =>
      simp only [List.cons_append, List.append_assoc, List.nil_append, List.cons.injEq,
        true_and] at h
      obtain ⟨hdigits, hrest⟩ :=
        append_cons_inj (brace_notMem_toDigits _) (brace_notMem_toDigits _) h
      exact ⟨Char.toNat_inj.mp (toDigits_inj hdigits), hrest⟩

/-- A written character is not empty, and does not begin with a quote. -/
lemma Written.exists_cons {c : Char} {u : List Char} (h : Written c u) :
    ∃ a v, u = a :: v ∧ a ≠ '"' := by
  cases h with
  | alone hq hb => exact ⟨c, [], rfl, hq⟩
  | letter hk => exact ⟨'\\', _, rfl, by decide⟩
  | code => exact ⟨'\\', _, rfl, by decide⟩

/-! ### Whole texts -/

/-- A quoted text ends at the first quote that is not written as an escape. -/
lemma quotedList_append_inj {cs ds x y : List Char} (h : quotedList cs ++ x = quotedList ds ++ y) :
    cs = ds ∧ x = y := by
  have hbody : cs.flatMap escapeChar ++ '"' :: x = ds.flatMap escapeChar ++ '"' :: y := by
    simpa [quotedList] using h
  clear h
  induction cs generalizing ds with
  | nil =>
    cases ds with
    | nil => exact ⟨rfl, (List.cons.inj hbody).2⟩
    | cons d ds =>
      obtain ⟨a, v, hd, ha⟩ := (written_escapeChar d).exists_cons
      rw [List.flatMap_cons, hd] at hbody
      exact absurd (List.cons.inj hbody).1.symm ha
  | cons c cs ih =>
    cases ds with
    | nil =>
      obtain ⟨a, v, hc, ha⟩ := (written_escapeChar c).exists_cons
      rw [List.flatMap_cons, hc] at hbody
      exact absurd (List.cons.inj hbody).1 ha
    | cons d ds =>
      rw [List.flatMap_cons, List.flatMap_cons, List.append_assoc, List.append_assoc] at hbody
      obtain ⟨rfl, hrest⟩ := (written_escapeChar c).append_inj (written_escapeChar d) hbody
      obtain ⟨rfl, rfl⟩ := ih hrest
      exact ⟨rfl, rfl⟩

end CardSearch.Text
