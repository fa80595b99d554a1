import CardSearch.Text.Lower
import Mathlib.Tactic.Common

/-!
# Lower case twice

A text in lower case does not change when it is put in lower case again. The lower case partner of
a character has no other partner in turn, and nothing becomes a capital sigma, so in the result no
character looks at its neighbours.
-/

namespace CardSearch.Text

/-! ### Partners of partners -/

namespace CaseRange

/-- The range gives a partner to this code point. -/
def Moves (r : CaseRange) (n : Nat) : Prop :=
  r.first ≤ n ∧ n ≤ r.last ∧ (n - r.first) % r.step = 0

/-- The partner of a code point that the range moves. -/
def image (r : CaseRange) (n : Nat) : Nat := (n + r.shift).toNat

/-- Whether the images of `r` are not moved by `s`: they all lie before or behind it, or on the
places that it passes over. -/
def avoids (r s : CaseRange) : Bool :=
  (r.image r.last).blt s.first || s.last.blt (r.image r.first) ||
    (s.step.beq 2 && (r.step.beq 2 || r.first.beq r.last) && Nat.blt 0 (r.image r.first) &&
      ((r.image r.first + s.first) % 2).beq 1)

/-- Whether the images are code points of characters. -/
def intoChars (r : CaseRange) : Bool :=
  (r.image r.last).blt 0xD800 ||
    (Nat.blt 0xDFFF (r.image r.first) && (r.image r.last).blt 0x110000)

variable {r s : CaseRange} {n : Nat}

lemma image_mem (h : r.Moves n) : r.image r.first ≤ r.image n ∧ r.image n ≤ r.image r.last := by
  obtain ⟨hfirst, hlast, -⟩ := h
  unfold image
  omega

lemma not_moves_image (h : r.avoids s = true) (hn : r.Moves n) : ¬ s.Moves (r.image n) := by
  obtain ⟨hlow, hhigh⟩ := image_mem hn
  rintro ⟨hfirst, hlast, hstep⟩
  simp only [avoids, Bool.or_eq_true, Bool.and_eq_true, Nat.blt_eq, Nat.beq_eq] at h
  rcases h with (h | h) | ⟨⟨⟨hs, hr⟩, hpos⟩, hodd⟩
  · omega
  · omega
  · -- the images and the code points that `s` moves differ in parity
    obtain ⟨hfirst', hlast', hstep'⟩ := hn
    rw [hs] at hstep
    unfold image at *
    rcases hr with hr | hr
    · rw [hr] at hstep'
      omega
    · omega

lemma isValidChar_image (h : r.intoChars = true) (hn : r.Moves n) : (r.image n).isValidChar := by
  obtain ⟨hlow, hhigh⟩ := image_mem hn
  simp only [intoChars, Bool.or_eq_true, Bool.and_eq_true, Nat.blt_eq] at h
  unfold Nat.isValidChar
  omega

/-- The dotted capital I, which becomes two characters. -/
def dottedI : CaseRange := ⟨0x130, 0x130, 1, -199⟩

end CaseRange

/-- Partners are characters without a partner, and none of them is the dotted capital I. -/
lemma caseRanges_avoid : (caseRanges.all fun r =>
    r.intoChars && (CaseRange.dottedI :: caseRanges).all r.avoids) = true := by
  decide +kernel

variable {n : Nat}

lemma partner_cases (n : Nat) (rs : List CaseRange) :
    partner n rs = n ∨ ∃ r ∈ rs, r.Moves n ∧ partner n rs = r.image n := by
  induction rs with
  | nil => exact .inl rfl
  | cons r rs ih =>
    rw [partner]
    split_ifs with hfirst hlast hstep
    · exact .inl rfl
    · exact .inr ⟨r, List.mem_cons_self, ⟨Nat.le_of_not_lt hfirst, hlast, hstep⟩, rfl⟩
    · exact .inl rfl
    · obtain h | ⟨s, hs, hmoves, hpartner⟩ := ih
      · exact .inl h
      · exact .inr ⟨s, List.mem_cons_of_mem r hs, hmoves, hpartner⟩

/-- The code points that are left in lower case: characters that no range moves. -/
structure Fixed (m : Nat) : Prop where
  valid : m.isValidChar
  ne_dottedI : m ≠ 0x130
  partner_eq : partner m caseRanges = m

lemma fixed_image {r : CaseRange} (hr : r ∈ caseRanges) (hn : r.Moves n) : Fixed (r.image n) := by
  have hall := List.all_eq_true.mp caseRanges_avoid r hr
  simp only [Bool.and_eq_true, List.all_cons, List.all_eq_true] at hall
  obtain ⟨hchars, hdotted, havoids⟩ := hall
  refine ⟨CaseRange.isValidChar_image hchars hn, ?_, ?_⟩
  · intro heq
    apply CaseRange.not_moves_image hdotted hn
    rw [heq]
    exact ⟨Nat.le_refl _, Nat.le_refl _, rfl⟩
  · rcases partner_cases (r.image n) caseRanges with h | ⟨s, hs, hmoves, -⟩
    · exact h
    · exact absurd hmoves (CaseRange.not_moves_image (havoids s hs) hn)

lemma fixed_partner {c : Char} (hc : c ≠ 'İ') : Fixed (partner c.toNat caseRanges) := by
  rcases partner_cases c.toNat caseRanges with h | ⟨r, hr, hmoves, h⟩
  · refine ⟨?_, ?_, ?_⟩
    · rw [h]
      exact c.valid
    · rw [h]
      exact fun hdotted => hc (Char.toNat_inj.mp hdotted)
    · rw [h, h]
  · rw [h]
    exact fixed_image hr hmoves

/-! ### Lower case of lower case -/

/-- A character that is its own lower case form. -/
def IsLower (c : Char) : Prop := lowerChar c = [c]

instance : DecidablePred IsLower := fun c => inferInstanceAs (Decidable (lowerChar c = [c]))

lemma not_isLower_sigma : ¬ IsLower 'Σ' := by decide

lemma Fixed.isLower {m : Nat} (h : Fixed m) : IsLower (Char.ofNat m) := by
  have hm : (Char.ofNat m).toNat = m := by
    rw [Char.ofNat, dif_pos h.valid]
    rfl
  have hne : Char.ofNat m ≠ 'İ' := by
    intro heq
    rw [heq] at hm
    exact h.ne_dottedI hm.symm
  rw [IsLower, lowerChar, if_neg hne, hm, h.partner_eq]

lemma isLower_of_mem_lowerChar {c d : Char} (hd : d ∈ lowerChar c) : IsLower d := by
  rw [lowerChar] at hd
  split_ifs at hd with hc
  · simp only [List.mem_cons, List.not_mem_nil, or_false] at hd
    rcases hd with rfl | rfl <;> decide
  · rw [List.mem_singleton.mp hd]
    exact (fixed_partner hc).isLower

lemma isLower_lowerSigma (before after : List Char) : IsLower (lowerSigma before after) := by
  rw [lowerSigma]
  split_ifs <;> decide

lemma isLower_of_mem_lowerAfter {before cs : List Char} :
    ∀ d ∈ lowerAfter before cs, IsLower d := by
  induction cs generalizing before with
  | nil => simp
  | cons c cs ih =>
    rw [lowerAfter]
    refine List.forall_mem_append.mpr ⟨fun d hd => ?_, ih⟩
    split_ifs at hd with hc
    · rw [List.mem_singleton.mp hd]
      exact isLower_lowerSigma before cs
    · exact isLower_of_mem_lowerChar hd

lemma lowerAfter_eq_self {before cs : List Char} (h : ∀ c ∈ cs, IsLower c) :
    lowerAfter before cs = cs := by
  induction cs generalizing before with
  | nil => rfl
  | cons c cs ih =>
    obtain ⟨hc, hcs⟩ := List.forall_mem_cons.mp h
    have hsigma : c ≠ 'Σ' := by
      rintro rfl
      exact not_isLower_sigma hc
    rw [lowerAfter, if_neg hsigma, hc, ih hcs, List.singleton_append]

lemma lowerList_lowerList (cs : List Char) : lowerList (lowerList cs) = lowerList cs :=
  lowerAfter_eq_self isLower_of_mem_lowerAfter

@[simp] lemma lower_lower (s : String) : lower (lower s) = lower s := by
  rw [lower, toList_lower, lowerList_lowerList, lower]

end CardSearch.Text
