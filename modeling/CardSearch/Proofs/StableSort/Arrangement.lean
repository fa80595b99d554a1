import CardSearch.StableSort
import Mathlib.Tactic.Common

/-!
# The stable arrangement

Where a comparison orders values up to ties, a list has one arrangement in which no value stands
before a lesser one and the values of each class of ties keep their order. Merging the arrangements
of two neighbouring lists gives that of both, from whichever end they are merged. So does the merge
sort of the standard library.
-/

namespace CardSearch.StableSort

variable {α : Type} {less : α → α → Bool} {l l₁ l₂ s s₁ s₂ : List α} {a b c : α}

/-! ### Orders up to ties -/

/-- A comparison that orders values up to ties. -/
structure WeakOrder (less : α → α → Bool) : Prop where
  asymm : ∀ a b, less a b = true → less b a = false
  trans : ∀ a b c, inOrder less a b = true → inOrder less b c = true → inOrder less a c = true

/-- Whether two values can stand in either order. -/
def tied (less : α → α → Bool) (a b : α) : Bool := inOrder less a b && inOrder less b a

lemma tied_iff : tied less a b = true ↔ inOrder less a b = true ∧ inOrder less b a = true :=
  Bool.and_eq_true_iff

lemma inOrder_iff : inOrder less a b = true ↔ less b a = false := by
  rw [inOrder, Bool.not_eq_true']

/-- Turning the comparison round does not change what is tied. -/
lemma tied_flip : tied (fun a b => less b a) = tied less := by
  funext a b
  exact Bool.and_comm _ _

namespace WeakOrder

variable (h : WeakOrder less)

include h

lemma inOrder_of_less (hab : less a b = true) : inOrder less a b = true :=
  inOrder_iff.mpr (h.asymm a b hab)

lemma total (a b : α) : (inOrder less a b || inOrder less b a) = true := by
  rw [Bool.or_eq_true, inOrder_iff]
  cases hba : less b a with
  | false => exact .inl rfl
  | true => exact .inr (h.inOrder_of_less hba)

lemma less_of_inOrder_of_less (hab : inOrder less a b = true) (hbc : less b c = true) :
    less a c = true := by
  by_contra hac
  have hcb := h.trans c a b (inOrder_iff.mpr (eq_false_of_ne_true hac)) hab
  rw [inOrder_iff, hbc] at hcb
  cases hcb

lemma less_of_less_of_inOrder (hab : less a b = true) (hbc : inOrder less b c = true) :
    less a c = true := by
  by_contra hac
  have hba := h.trans b c a hbc (inOrder_iff.mpr (eq_false_of_ne_true hac))
  rw [inOrder_iff, hab] at hba
  cases hba

lemma less_trans (hab : less a b = true) (hbc : less b c = true) : less a c = true :=
  h.less_of_less_of_inOrder hab (h.inOrder_of_less hbc)

lemma refl (a : α) : inOrder less a a = true := by simpa using h.total a a

lemma tied_self (a : α) : tied less a a = true := tied_iff.mpr ⟨h.refl a, h.refl a⟩

lemma flip : WeakOrder fun a b => less b a where
  asymm a b := h.asymm b a
  trans a b c hab hbc := h.trans c b a hbc hab

/-- Values that tie with one value tie with one another. -/
lemma tied_trans (hab : tied less a b = true) (hac : tied less a c = true) :
    tied less b c = true := by
  rw [tied_iff] at hab hac ⊢
  exact ⟨h.trans b a c hab.2 hac.1, h.trans c a b hac.2 hab.1⟩

end WeakOrder

/-! ### Arrangements -/

/-- The second list is the first one in order, with ties as they were. -/
structure Sorts (less : α → α → Bool) (l s : List α) : Prop where
  sorted : s.Pairwise fun a b => inOrder less a b = true
  stable : ∀ a, s.filter (tied less a) = l.filter (tied less a)

namespace Sorts

lemma nil : Sorts less [] [] := ⟨.nil, fun _ => rfl⟩

lemma of_pairwise (hl : l.Pairwise fun a b => inOrder less a b = true) : Sorts less l l :=
  ⟨hl, fun _ => rfl⟩

lemma mem_iff (h : WeakOrder less) (hs : Sorts less l s) : a ∈ s ↔ a ∈ l := by
  have hclass := hs.stable a
  have hmem (m : List α) : a ∈ m ↔ a ∈ m.filter (tied less a) := by
    rw [List.mem_filter, and_iff_left (h.tied_self a)]
  rw [hmem s, hclass, ← hmem l]

lemma flip (hs : Sorts (fun a b => less b a) l.reverse s) : Sorts less l s.reverse where
  sorted := List.pairwise_reverse.mpr hs.sorted
  stable a := by
    have hclass := hs.stable a
    rw [tied_flip] at hclass
    rw [List.filter_reverse, hclass, List.filter_reverse, List.reverse_reverse]

/-- Only one list is the arrangement of another one. -/
lemma unique (h : WeakOrder less) (hs₁ : Sorts less l s₁) (hs₂ : Sorts less l s₂) : s₁ = s₂ := by
  induction s₁ generalizing l s₂ with
  | nil =>
    cases s₂ with
    | nil => rfl
    | cons b s₂ =>
      have hb := (hs₁.mem_iff h).mpr ((hs₂.mem_iff h).mp List.mem_cons_self)
      cases hb
  | cons a s₁ ih =>
    cases s₂ with
    | nil =>
      have ha := (hs₂.mem_iff h).mpr ((hs₁.mem_iff h).mp List.mem_cons_self)
      cases ha
    | cons b s₂ =>
      have hclass (c : α) := (hs₁.stable c).trans (hs₂.stable c).symm
      have hle {c d : α} {m : List α} (hm : Sorts less l (c :: m)) (hd : d ∈ l) :
          inOrder less c d = true := by
        rcases List.mem_cons.mp ((hm.mem_iff h).mpr hd) with rfl | hd
        · exact h.refl d
        · exact (List.pairwise_cons.mp hm.sorted).1 d hd
      have hab : tied less a b = true := tied_iff.mpr
        ⟨hle hs₁ ((hs₂.mem_iff h).mp List.mem_cons_self),
          hle hs₂ ((hs₁.mem_iff h).mp List.mem_cons_self)⟩
      -- The two fronts tie, so both stand in front of the same class.
      obtain rfl : a = b := by
        have hfront := hclass a
        rw [List.filter_cons_of_pos (h.tied_self a), List.filter_cons_of_pos hab] at hfront
        exact (List.cons.inj hfront).1
      have htail : Sorts less s₁ s₂ := by
        refine ⟨(List.pairwise_cons.mp hs₂.sorted).2, fun c => ?_⟩
        have hrest := (hclass c).symm
        rw [List.filter_cons, List.filter_cons] at hrest
        split at hrest
        · exact (List.cons.inj hrest).2
        · exact hrest
      rw [ih (of_pairwise (List.pairwise_cons.mp hs₁.sorted).2) htail]

end Sorts

/-! ### Merging -/

/-- In a merge of sorted lists a class of ties comes from the first one and then from the second
one. -/
lemma filter_tied_merge (h : WeakOrder less) (hs₁ : s₁.Pairwise fun a b => inOrder less a b = true)
    (a : α) : (s₁.merge s₂ (inOrder less)).filter (tied less a) =
      s₁.filter (tied less a) ++ s₂.filter (tied less a) := by
  induction s₁ generalizing s₂ with
  | nil => rw [List.nil_merge, List.filter_nil, List.nil_append]
  | cons b s₁ ih₁ =>
    induction s₂ with
    | nil => rw [List.merge_right, List.filter_nil, List.append_nil]
    | cons c s₂ ih₂ =>
      obtain ⟨hb, hrest⟩ := List.pairwise_cons.mp hs₁
      rw [List.cons_merge_cons]
      split
      · rw [List.filter_cons, ih₁ hrest, List.filter_cons (x := b)]
        split <;> rfl
      · next hbc =>
        rw [List.filter_cons, ih₂]
        split
        · next hac =>
          -- Nothing in the first list ties with a value that is less than its front.
          have hnone : (b :: s₁).filter (tied less a) = [] := by
            refine List.filter_eq_nil_iff.mpr fun d hd had => hbc ?_
            have hbd : inOrder less b d = true := by
              rcases List.mem_cons.mp hd with rfl | hd
              · exact h.refl d
              · exact hb d hd
            exact h.trans b d c hbd (tied_iff.mp (h.tied_trans had hac)).1
          rw [hnone, List.nil_append, List.nil_append, List.filter_cons_of_pos hac]
        · next hac => rw [List.filter_cons_of_neg hac]

namespace Sorts

lemma merge_front (h : WeakOrder less) (hs₁ : Sorts less l₁ s₁) (hs₂ : Sorts less l₂ s₂) :
    Sorts less (l₁ ++ l₂) (s₁.merge s₂ (inOrder less)) where
  sorted := List.pairwise_merge h.trans h.total s₁ s₂ hs₁.sorted hs₂.sorted
  stable a := by
    rw [filter_tied_merge h hs₁.sorted, hs₁.stable, hs₂.stable, List.filter_append]

lemma reverse (hs : Sorts less l s) : Sorts (fun a b => less b a) l.reverse s.reverse := by
  apply flip
  rw [List.reverse_reverse]
  exact hs

lemma merge_back (h : WeakOrder less) (hs₁ : Sorts less l₁ s₁) (hs₂ : Sorts less l₂ s₂) :
    Sorts less (l₁ ++ l₂) (s₂.reverse.merge s₁.reverse (inOrder fun a b => less b a)).reverse := by
  apply flip
  rw [List.reverse_append]
  exact hs₂.reverse.merge_front h.flip hs₁.reverse

lemma merge (h : WeakOrder less) (hs₁ : Sorts less l₁ s₁) (hs₂ : Sorts less l₂ s₂) :
    Sorts less (l₁ ++ l₂) (merge less s₁ s₂) := by
  rw [StableSort.merge]
  split
  · exact hs₁.merge_front h hs₂
  · exact hs₁.merge_back h hs₂

end Sorts

/-! ### The merge sort of the library -/

lemma filter_tied_mergeSort (h : WeakOrder less) (l : List α) (a : α) :
    (l.mergeSort (inOrder less)).filter (tied less a) = l.filter (tied less a) := by
  have hsub : (l.filter (tied less a)).Sublist (l.mergeSort (inOrder less)) := by
    refine List.sublist_mergeSort h.trans h.total ?_ List.filter_sublist
    apply List.pairwise_of_forall_mem_list
    intro b hb c hc
    exact (tied_iff.mp (h.tied_trans (List.mem_filter.mp hb).2 (List.mem_filter.mp hc).2)).1
  have hclass := hsub.filter (tied less a)
  simp only [List.filter_filter, Bool.and_self] at hclass
  exact (hclass.eq_of_length ((List.mergeSort_perm l _).filter _).length_eq.symm).symm

lemma sorts_mergeSort (h : WeakOrder less) (l : List α) :
    Sorts less l (l.mergeSort (inOrder less)) where
  sorted := List.pairwise_mergeSort h.trans h.total l
  stable := filter_tied_mergeSort h l

lemma Sorts.eq_mergeSort (h : WeakOrder less) (hs : Sorts less l s) :
    s = l.mergeSort (inOrder less) :=
  hs.unique h (sorts_mergeSort h l)

lemma Sorts.perm (h : WeakOrder less) (hs : Sorts less l s) : s.Perm l := by
  rw [hs.eq_mergeSort h]
  exact List.mergeSort_perm l _

end CardSearch.StableSort
