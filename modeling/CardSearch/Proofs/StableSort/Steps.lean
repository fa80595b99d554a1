import CardSearch.Proofs.StableSort.Merging

/-!
# What the steps of a sort keep

A sort inserts, merges, turns falling runs round and divides. Two relations between a list and what
becomes of it are kept by all of these: that it is a permutation, for any comparison, and that it is
the stable arrangement, for a comparison that orders values up to ties. In the second case a result
never fails to appear.
-/

namespace CardSearch.StableSort

variable {α : Type} {less : α → α → Bool} {l l₁ l₂ s s₁ s₂ : List α} {x p : α}

/-! ### Results -/

/-- A result satisfies a condition, and there may be none only if that is allowed. -/
def Yields {β : Type} (mayFail : Prop) (post : β → Prop) : Option β → Prop
  | some b => post b
  | none   => mayFail

namespace Yields

variable {β γ : Type} {mayFail : Prop} {post : β → Prop} {o : Option β}

lemma bind {post' : γ → Prop} {f : β → Option γ} (ho : Yields mayFail post o)
    (hf : ∀ b, post b → Yields mayFail post' (f b)) : Yields mayFail post' (o >>= f) := by
  cases o with
  | none => exact ho
  | some b => exact hf b ho

lemma map {post' : γ → Prop} {f : β → γ} (ho : Yields mayFail post o)
    (hf : ∀ b, post b → post' (f b)) : Yields mayFail post' (o.map f) := by
  cases o with
  | none => exact ho
  | some b => exact hf b ho

end Yields

/-! ### Steps -/

/-- None of some values is less than a pivot, or than a bound that the pivot is not greater
than. -/
def NoneBelow (less : α → α → Bool) (p : α) (l : List α) : Prop :=
  (∀ x ∈ l, inOrder less p x = true) ∨
    ∃ b, inOrder less p b = true ∧ ∀ x ∈ l, inOrder less b x = true

/-- A relation between a list and what becomes of it that is kept by the steps of a sort. One of
the steps may have no result if that is allowed. -/
structure Kept (less : α → α → Bool) (mayFail : Prop) (R : List α → List α → Prop) : Prop where
  nil : R [] []
  insert : ∀ {l s x}, R l s → R (l ++ [x]) (insertBack less x s.reverse).reverse
  four : ∀ {l}, l.length = 4 → R l (sortFour less l)
  bothEnds : ∀ {l₁ l₂ s₁ s₂}, R l₁ s₁ → R l₂ s₂ → l₁.length ≤ l₂.length →
    l₂.length ≤ l₁.length + 1 → Yields mayFail (R (l₁ ++ l₂)) (mergeBothEnds less s₁ s₂)
  merge : ∀ {l₁ l₂ s₁ s₂}, R l₁ s₁ → R l₂ s₂ → R (l₁ ++ l₂) (merge less s₁ s₂)
  rising : ∀ {l}, l.IsChain (fun a b => inOrder less a b = true) → R l l
  falling : ∀ {l}, l.IsChain (fun a b => less b a = true) → R l l.reverse
  parts : ∀ {l p s₁ s₂}, R (l.filter (less · p)) s₁ → R (l.filter fun x => !less x p) s₂ →
    R l (s₁ ++ s₂)
  least : ∀ {l p s}, NoneBelow less p l → R (l.filter fun x => less p x) s →
    R l (l.filter (inOrder less · p) ++ s)

/-! ### Insertion and four values -/

lemma insertBack_eq_merge (x : α) (l : List α) :
    insertBack less x l = [x].merge l (inOrder fun a b => less b a) := by
  induction l with
  | nil => rw [List.merge_right, insertBack]
  | cons y l ih =>
    rw [insertBack, List.cons_merge_cons, inOrder, List.nil_merge, ih]
    cases less x y <;> rfl

section

variable {a b c d : α}

lemma sortPair_eq_merge (a b : α) : [(sortPair less a b).1, (sortPair less a b).2] =
    [a].merge [b] (inOrder less) := by
  rw [List.cons_merge_cons, List.nil_merge, List.merge_right, sortPair, inOrder]
  cases less b a <;> rfl

lemma mergePairs_eq_merge (h : WeakOrder less) (hab : inOrder less a b = true)
    (hcd : inOrder less c d = true) :
    mergePairs less (a, b) (c, d) = [a, b].merge [c, d] (inOrder less) := by
  have hdc := inOrder_iff.mp hcd
  have hba := inOrder_iff.mp hab
  cases hca : less c a with
  | false =>
    cases hdb : less d b with
    | false => cases hcb : less c b <;> simp [mergePairs, inOrder, *]
    | true =>
      have hcb : less c b = true := h.less_of_inOrder_of_less hcd hdb
      simp [mergePairs, inOrder, *]
  | true =>
    cases hdb : less d b with
    | false =>
      have hda := inOrder_iff.mp (h.trans a b d hab (inOrder_iff.mpr hdb))
      simp [mergePairs, inOrder, *]
    | true => cases hda : less d a <;> simp [mergePairs, inOrder, *]

lemma perm_mergePairs (v w : α × α) : (mergePairs less v w).Perm [v.1, v.2, w.1, w.2] := by
  classical
  obtain ⟨a, b⟩ := v
  obtain ⟨c, d⟩ := w
  have hmiddle (least lower upper greatest : α) :
      (if less upper lower then [least, upper, lower, greatest]
        else [least, lower, upper, greatest]).Perm [least, lower, upper, greatest] := by
    split
    · exact (List.Perm.swap lower upper [greatest]).cons least
    · exact .refl _
  cases hca : less c a <;> cases hdb : less d b <;> simp only [mergePairs, hca, hdb] <;>
    refine (hmiddle _ _ _ _).trans ?_ <;> rw [List.perm_iff_count] <;> intro x <;>
    simp only [List.count_cons, List.count_nil] <;> omega

lemma perm_sortFour (l : List α) : (sortFour less l).Perm l := by
  have hpair (a b : α) : [(sortPair less a b).1, (sortPair less a b).2].Perm [a, b] := by
    rw [sortPair_eq_merge]
    exact List.merge_perm_append _
  unfold sortFour
  split
  · next a b c d => exact (perm_mergePairs _ _).trans ((hpair a b).append (hpair c d))
  · exact .refl _

lemma Sorts.sortFour (h : WeakOrder less) (hl : l.length = 4) :
    Sorts less l (sortFour less l) := by
  match l with
  | [a, b, c, d] =>
    have hpair (a b : α) :
        Sorts less ([a] ++ [b]) [(sortPair less a b).1, (sortPair less a b).2] := by
      rw [sortPair_eq_merge]
      exact (of_pairwise (List.pairwise_singleton _ a)).merge_front h
        (of_pairwise (List.pairwise_singleton _ b))
    have hinOrder (a b : α) :
        inOrder less (sortPair less a b).1 (sortPair less a b).2 = true := by
      simpa using (hpair a b).sorted
    rw [StableSort.sortFour, mergePairs_eq_merge h (hinOrder a b) (hinOrder c d)]
    exact (hpair a b).merge_front h (hpair c d)

end

lemma filter_less_eq (less : α → α → Bool) (p : α) (l : List α) :
    (l.filter fun x => less p x) = l.filter fun x => !inOrder less x p := by
  simp only [inOrder, Bool.not_not]

/-! ### Permutations -/

lemma perm_merge (s₁ s₂ : List α) : (merge less s₁ s₂).Perm (s₁ ++ s₂) := by
  rw [merge]
  split
  · exact List.merge_perm_append _
  · refine (List.reverse_perm _).trans ((List.merge_perm_append _).trans ?_)
    rw [← List.reverse_append]
    exact List.reverse_perm _

/-- The steps of a sort lose no value and add none. -/
lemma kept_perm (less : α → α → Bool) : Kept less True fun l s => s.Perm l where
  nil := .nil
  insert {l s x} hs := by
    rw [insertBack_eq_merge]
    refine (List.reverse_perm _).trans ((List.merge_perm_append _).trans ?_)
    exact List.perm_append_comm.trans (((List.reverse_perm s).trans hs).append_right [x])
  four _ := perm_sortFour _
  bothEnds {l₁ l₂ s₁ s₂} hs₁ hs₂ _ _ := by
    cases hs : mergeBothEnds less s₁ s₂ with
    | none => trivial
    | some s => exact (perm_of_mergeBothEnds hs).trans (hs₁.append hs₂)
  merge hs₁ hs₂ := (perm_merge _ _).trans (hs₁.append hs₂)
  rising _ := .refl _
  falling _ := List.reverse_perm _
  parts hs₁ hs₂ := (hs₁.append hs₂).trans (List.filter_append_perm _ _)
  least {l p s} _ hs := by
    rw [filter_less_eq] at hs
    exact (hs.append_left _).trans (List.filter_append_perm _ _)

/-! ### Stable arrangements -/

namespace Sorts

/-- A list can be sorted in two parts, where no value of the second one is less than one of the
first one. -/
lemma append {q : α → Bool} (h : WeakOrder less) (hs₁ : Sorts less (l.filter q) s₁)
    (hs₂ : Sorts less (l.filter fun x => !q x) s₂)
    (hq : ∀ a ∈ l, ∀ b ∈ l, q a = true → q b = false → less a b = true) :
    Sorts less l (s₁ ++ s₂) where
  sorted := by
    refine List.pairwise_append.mpr ⟨hs₁.sorted, hs₂.sorted, fun a ha b hb => ?_⟩
    rw [hs₁.mem_iff h, List.mem_filter] at ha
    rw [hs₂.mem_iff h, List.mem_filter, Bool.not_eq_true'] at hb
    exact h.inOrder_of_less (hq a ha.1 b hb.1 ha.2 hb.2)
  stable a := by
    rw [List.filter_append, hs₁.stable, hs₂.stable, List.filter_filter, List.filter_filter]
    -- A class of ties lies in one of the two parts.
    have hclass : ∀ x ∈ l, ∀ y ∈ l, tied less a x = true → tied less a y = true → q x = true →
        q y = true := by
      intro x hx y hy hax hay hqx
      by_contra hqy
      have hxy := hq x hx y hy hqx (eq_false_of_ne_true hqy)
      have hyx := (tied_iff.mp (h.tied_trans hax hay)).2
      rw [inOrder_iff, hxy] at hyx
      cases hyx
    by_cases hfirst : ∃ x ∈ l, tied less a x = true ∧ q x = true
    · obtain ⟨x, hx, hax, hqx⟩ := hfirst
      have hall : ∀ y ∈ l, tied less a y = true → q y = true :=
        fun y hy hay => hclass x hx y hy hax hay hqx
      have hnone : l.filter (fun y => tied less a y && !q y) = [] := by
        simpa using hall
      rw [hnone, List.append_nil]
      exact List.filter_congr fun y hy => by simpa using hall y hy
    · have hall : ∀ y ∈ l, tied less a y = true → q y = false := by simpa using hfirst
      have hnone : l.filter (fun y => tied less a y && q y) = [] := by simpa using hall
      rw [hnone, List.nil_append]
      exact List.filter_congr fun y hy => by simpa using hall y hy

lemma parts (h : WeakOrder less) (hs₁ : Sorts less (l.filter (less · p)) s₁)
    (hs₂ : Sorts less (l.filter fun x => !less x p) s₂) : Sorts less l (s₁ ++ s₂) := by
  exact hs₁.append h hs₂ fun a _ b _ hap hbp => h.less_of_less_of_inOrder hap (inOrder_iff.mpr hbp)

lemma least (h : WeakOrder less) (hnone : NoneBelow less p l)
    (hs : Sorts less (l.filter fun x => less p x) s) :
    Sorts less l (l.filter (inOrder less · p) ++ s) := by
  have hbelow : ∀ x ∈ l, inOrder less p x = true := by
    rcases hnone with hp | ⟨b, hpb, hb⟩
    · exact hp
    · exact fun x hx => h.trans p b x hpb (hb x hx)
  have hties : Sorts less (l.filter (inOrder less · p)) (l.filter (inOrder less · p)) := by
    apply of_pairwise
    apply List.pairwise_of_forall_mem_list
    intro a ha b hb
    exact h.trans a p b (List.mem_filter.mp ha).2 (hbelow b (List.mem_filter.mp hb).1)
  rw [filter_less_eq] at hs
  refine hties.append h hs fun a _ b _ hap hbp => h.less_of_inOrder_of_less hap ?_
  rw [inOrder, Bool.not_eq_false'] at hbp
  exact hbp

lemma insert (h : WeakOrder less) (hs : Sorts less l s) (x : α) :
    Sorts less (l ++ [x]) (insertBack less x s.reverse).reverse := by
  rw [insertBack_eq_merge]
  exact hs.merge_back h (of_pairwise (List.pairwise_singleton _ x))

lemma rising (h : WeakOrder less) (hl : l.IsChain fun a b => inOrder less a b = true) :
    Sorts less l l := by
  have : Trans (inOrder less · · = true) (inOrder less · · = true) (inOrder less · · = true) :=
    ⟨h.trans _ _ _⟩
  exact of_pairwise hl.pairwise

/-- A list that falls has no ties, so that it can be turned round. -/
lemma falling (h : WeakOrder less) (hl : l.IsChain fun a b => less b a = true) :
    Sorts less l l.reverse := by
  have : Trans (fun a b => less b a = true) (fun a b => less b a = true)
    (fun a b => less b a = true) := ⟨fun hba hcb => h.less_trans hcb hba⟩
  have hpairwise := hl.pairwise
  refine ⟨List.pairwise_reverse.mpr (hpairwise.imp h.inOrder_of_less), fun a => ?_⟩
  rw [List.filter_reverse]
  have hclass := hpairwise.filter (tied less a)
  match hm : l.filter (tied less a) with
  | [] | [x] => rfl
  | x :: y :: m =>
    rw [hm] at hclass
    have hax : tied less a x = true := (List.mem_filter.mp (hm ▸ List.mem_cons_self)).2
    have hay : tied less a y = true :=
      (List.mem_filter.mp (hm ▸ List.mem_cons_of_mem x List.mem_cons_self)).2
    have hxy := (tied_iff.mp (h.tied_trans hax hay)).1
    rw [inOrder_iff, (List.pairwise_cons.mp hclass).1 y List.mem_cons_self] at hxy
    cases hxy

end Sorts

/-- Each step has a result, which is the arrangement of what it gets. -/
lemma kept_sorts (h : WeakOrder less) : Kept less False (Sorts less) where
  nil := .nil
  insert hs := hs.insert h _
  four := Sorts.sortFour h
  bothEnds hs₁ hs₂ hlength hlength' := by
    have hperm₁ := (hs₁.perm h).length_eq
    have hperm₂ := (hs₂.perm h).length_eq
    rw [mergeBothEnds_eq_some h hs₁.sorted hs₂.sorted (by omega) (by omega)]
    exact hs₁.merge_front h hs₂
  merge hs₁ hs₂ := hs₁.merge h hs₂
  rising := Sorts.rising h
  falling := Sorts.falling h
  parts hs₁ hs₂ := hs₁.parts h hs₂
  least hnone hs := hs.least h hnone

end CardSearch.StableSort
