import CardSearch.Proofs.StableSort.Arrangement
import Mathlib.Data.List.Perm.Basic

/-!
# Merging from both ends

What the two ends of a merge take from two lists is a beginning and an end of each. If these do not
overlap, all values are there once; otherwise there is no result. For a comparison that orders
values up to ties they cannot overlap in sorted lists: a value that both ends take from one list
stands on both sides of a value that neither takes from the other one.
-/

namespace CardSearch.StableSort

variable {α : Type} {less : α → α → Bool} {l l₁ l₂ left right s s₁ s₂ : List α}

/-! ### Beginnings and ends -/

section

variable {x f y g : List α}

/-- A beginning and an end of a list that leave all of it between them do not overlap. -/
lemma exists_between (hx : x ++ f = l) (hy : y ++ g = l.reverse)
    (hle : l.length ≤ f.length + g.length) :
    ∃ z, f = z ++ y.reverse ∧ g.reverse = x ++ z ∧ z.length = f.length + g.length - l.length := by
  have hends : x ++ f = g.reverse ++ y.reverse := by
    rw [hx, ← List.reverse_append, hy, List.reverse_reverse]
  have hlength := congrArg List.length hx
  rw [List.length_append] at hlength
  rcases List.append_eq_append_iff.mp hends with ⟨z, hg, hf⟩ | ⟨z, hx', hy'⟩
  · refine ⟨z, hf, hg, ?_⟩
    have hrest := congrArg List.length hg
    rw [List.length_append, List.length_reverse] at hrest
    omega
  · have hover := congrArg List.length hx'
    rw [List.length_append, List.length_reverse] at hover
    obtain rfl : z = [] := List.eq_nil_of_length_eq_zero (by omega)
    refine ⟨[], by simpa using hy'.symm, by simpa using hx'.symm, ?_⟩
    rw [List.length_nil, List.append_nil] at *
    omega

lemma exists_mem_of_length_lt (hx : x ++ f = l) (hy : y ++ g = l.reverse)
    (hlt : l.length < f.length + g.length) : ∃ a, a ∈ f ∧ a ∈ g := by
  obtain ⟨z, hf, hg, hz⟩ := exists_between hx hy (Nat.le_of_lt hlt)
  obtain ⟨a, ha⟩ := List.exists_mem_of_length_pos (l := z) (by omega)
  refine ⟨a, by simp [hf, ha], ?_⟩
  rw [← List.mem_reverse, hg]
  exact List.mem_append_right x ha

/-- Where they overlap, something stands in both. -/
lemma exists_mem_of_lt_length (hx : x ++ f = l) (hy : y ++ g = l.reverse)
    (hlt : f.length + g.length < l.length) : ∃ a, a ∈ x ∧ a ∈ y := by
  have hlength := congrArg List.length hx
  have hlength' := congrArg List.length hy
  rw [List.length_append] at hlength hlength'
  rw [List.length_reverse] at hlength'
  have hx' : f.reverse ++ x.reverse = l.reverse := by rw [← List.reverse_append, hx]
  have hy' : g.reverse ++ y.reverse = l.reverse.reverse := by
    rw [← List.reverse_append, hy]
  obtain ⟨a, hax, hay⟩ := exists_mem_of_length_lt hx' hy' (by simp; omega)
  exact ⟨a, List.mem_reverse.mp hax, List.mem_reverse.mp hay⟩

/-- A list is known from its two ends and its values, if there is one value at most between the
ends. -/
lemma eq_of_perm_of_ends {m rest rest' : List α} (hx : l = x ++ rest) (hy : l = rest' ++ y)
    (hperm : (x ++ m ++ y).Perm l) (hm : m.length ≤ 1) : x ++ m ++ y = l := by
  obtain ⟨z, rfl⟩ : ∃ z, rest' = x ++ z := by
    have hlength := hperm.length_eq
    rw [hy] at hlength
    simp only [List.length_append] at hlength
    have hprefix : x <+: rest' ++ y := ⟨rest, hx.symm.trans hy⟩
    exact (List.prefix_of_prefix_length_le hprefix (List.prefix_append rest' y) (by omega)).imp
      fun z hz => hz.symm
  rw [hy, List.append_assoc, List.append_assoc, List.perm_append_left_iff,
    List.perm_append_right_iff] at hperm
  rw [hy]
  cases m with
  | nil => rw [hperm.nil_eq]
  | cons a m =>
    obtain rfl : m = [] := List.eq_nil_of_length_eq_zero (by simpa using hm)
    rw [List.perm_singleton.mp hperm.symm]

end

/-! ### Taking from two fronts -/

/-- What is taken from two lists is a beginning of each. In sorted lists it can stand before all
that is left. -/
structure Fronts (less : α → α → Bool) (as bs : List α) (t : Taken α) (x y : List α) : Prop where
  first : x ++ t.first = as
  second : y ++ t.second = bs
  perm : t.values.Perm (x ++ y)
  before : WeakOrder less → as.Pairwise (fun a b => inOrder less a b = true) →
    bs.Pairwise (fun a b => inOrder less a b = true) →
    (∀ a ∈ x, ∀ b ∈ t.second, inOrder less a b = true) ∧
      ∀ a ∈ t.first, ∀ b ∈ y, inOrder less a b = false

lemma exists_fronts (less : α → α → Bool) (n : Nat) (as bs : List α) :
    ∃ x y, Fronts less as bs (take (inOrder less) n as bs) x y := by
  induction n generalizing as bs with
  | zero => exact ⟨[], [], rfl, rfl, .nil, by simp [take]⟩
  | succ n ih =>
    match as, bs with
    | [], bs => exact ⟨[], [], rfl, rfl, .nil, by simp [take]⟩
    | a :: as, [] => exact ⟨[], [], rfl, rfl, .nil, by simp [take]⟩
    | a :: as, b :: bs =>
      rw [take]
      split
      · next hab =>
        obtain ⟨x, y, hfirst, hsecond, hperm, hbefore⟩ := ih as (b :: bs)
        refine ⟨a :: x, y, congrArg (a :: ·) hfirst, hsecond, hperm.cons a, fun h has hbs => ?_⟩
        obtain ⟨hx, hy⟩ := hbefore h (List.pairwise_cons.mp has).2 hbs
        refine ⟨List.forall_mem_cons.mpr ⟨fun c hc => ?_, hx⟩, hy⟩
        have hcb : c ∈ b :: bs := hsecond ▸ List.mem_append_right y hc
        rcases List.mem_cons.mp hcb with rfl | hcb
        · exact hab
        · exact h.trans a b c hab ((List.pairwise_cons.mp hbs).1 c hcb)
      · next hab =>
        obtain ⟨x, y, hfirst, hsecond, hperm, hbefore⟩ := ih (a :: as) bs
        refine ⟨x, b :: y, hfirst, congrArg (b :: ·) hsecond,
          (hperm.cons b).trans List.perm_middle.symm, fun h has hbs => ?_⟩
        obtain ⟨hx, hy⟩ := hbefore h has (List.pairwise_cons.mp hbs).2
        refine ⟨hx, fun c hc => List.forall_mem_cons.mpr ⟨?_, hy c hc⟩⟩
        have hca : c ∈ a :: as := hfirst ▸ List.mem_append_right x hc
        rcases List.mem_cons.mp hca with rfl | hca
        · exact eq_false_of_ne_true hab
        · exact eq_false_of_ne_true fun hcb =>
            hab (h.trans a c b ((List.pairwise_cons.mp has).1 c hca) hcb)

lemma length_values_take {p : α → α → Bool} {n : Nat} {as bs : List α} (has : n ≤ as.length)
    (hbs : n ≤ bs.length) : (take p n as bs).values.length = n := by
  induction n generalizing as bs with
  | zero => rfl
  | succ n ih =>
    match as, bs with
    | a :: as, b :: bs =>
      rw [take]
      simp only [List.length_cons] at has hbs
      split
      · exact congrArg (· + 1) (ih (by omega) (by simp only [List.length_cons]; omega))
      · exact congrArg (· + 1) (ih (by simp only [List.length_cons]; omega) (by omega))

lemma length_values_take_reverse {p : α → α → Bool} (hlength : left.length ≤ right.length) :
    (take p left.length right.reverse left.reverse).values.length = left.length :=
  length_values_take (by simpa using hlength) (by simp)

/-- A merge begins with what is taken from the fronts. -/
lemma merge_eq_take_append (p : α → α → Bool) (n : Nat) (as bs : List α) :
    as.merge bs p = (take p n as bs).values ++
      (take p n as bs).first.merge (take p n as bs).second p := by
  induction n generalizing as bs with
  | zero => rfl
  | succ n ih =>
    match as, bs with
    | [], bs => rfl
    | a :: as, [] => rfl
    | a :: as, b :: bs =>
      rw [List.cons_merge_cons, take]
      split
      · rw [ih as (b :: bs)]
        rfl
      · rw [ih (a :: as) bs]
        rfl

/-! ### Both ends -/

/-- The ends have taken no value twice. -/
lemma perm_of_mergeBothEnds (h : mergeBothEnds less left right = some s) :
    s.Perm (left ++ right) := by
  classical
  obtain ⟨x, y, hx, hy, hfront, -⟩ := exists_fronts less left.length left right
  obtain ⟨y', x', hy', hx', hback, -⟩ :=
    exists_fronts (fun a b => less b a) left.length right.reverse left.reverse
  rw [mergeBothEnds] at h
  split at h
  · next hlength =>
    obtain ⟨z, hz, -, hzl⟩ := exists_between hx hx' hlength.1
    obtain ⟨w, hw, -, hwl⟩ := exists_between hy hy' hlength.2
    obtain rfl := Option.some.inj h
    rw [← hzl, ← hwl]
    rw [List.perm_iff_count]
    intro a
    have hxa := congrArg (List.count a) (hx.symm.trans (congrArg (x ++ ·) hz))
    have hya := congrArg (List.count a) (hy.symm.trans (congrArg (y ++ ·) hw))
    have hfronta := hfront.count_eq a
    have hbacka := hback.count_eq a
    rw [hz, hw, List.take_left, List.take_left]
    simp only [List.count_append, List.count_reverse] at *
    omega
  · cases h

/-- In sorted lists of nearly one length the ends meet. -/
lemma not_overlap (h : WeakOrder less)
    (hleft : left.Pairwise fun a b => inOrder less a b = true)
    (hright : right.Pairwise fun a b => inOrder less a b = true)
    (hlength : left.length ≤ right.length) :
    left.length ≤ (take (inOrder less) left.length left right).first.length +
      (take (inOrder fun a b => less b a) left.length right.reverse left.reverse).second.length ∧
    right.length ≤ (take (inOrder less) left.length left right).second.length +
      (take (inOrder fun a b => less b a) left.length right.reverse left.reverse).first.length := by
  have hfrontLength := length_values_take (p := inOrder less) (Nat.le_refl _) hlength
  have hbackLength := length_values_take_reverse (p := inOrder fun a b => less b a) hlength
  obtain ⟨x, y, hx, hy, hfront, hbefore⟩ := exists_fronts less left.length left right
  obtain ⟨y', x', hy', hx', hback, hbehind⟩ :=
    exists_fronts (fun a b => less b a) left.length right.reverse left.reverse
  obtain ⟨hxy, hfy⟩ := hbefore h hleft hright
  obtain ⟨hyx, hgx⟩ := hbehind h.flip (List.pairwise_reverse.mpr hright)
    (List.pairwise_reverse.mpr hleft)
  have hcount := hfront.length_eq
  have hcount' := hback.length_eq
  have hxl := congrArg List.length hx
  have hyl := congrArg List.length hy
  have hxl' := congrArg List.length hx'
  have hyl' := congrArg List.length hy'
  simp only [List.length_append, List.length_reverse] at hcount hcount' hxl hyl hxl' hyl'
  constructor
  · by_contra hover
    obtain ⟨a, hax, hax'⟩ := exists_mem_of_lt_length hx hx' (by omega)
    obtain ⟨b, hbf, hbg⟩ := exists_mem_of_length_lt hy hy' (by omega)
    have hab := hxy a hax b hbf
    have hba := hgx b hbg a hax'
    rw [inOrder_iff] at hab
    rw [inOrder, hab] at hba
    cases hba
  · by_contra hover
    obtain ⟨b, hby, hby'⟩ := exists_mem_of_lt_length hy hy' (by omega)
    obtain ⟨a, haf, hag⟩ := exists_mem_of_length_lt hx hx' (by omega)
    have hab := hfy a haf b hby
    have hba := hyx b hby' a hag
    rw [inOrder_iff] at hba
    rw [inOrder, hba] at hab
    cases hab

/-- Merging from both ends is merging. -/
lemma mergeBothEnds_eq_some (h : WeakOrder less)
    (hleft : left.Pairwise fun a b => inOrder less a b = true)
    (hright : right.Pairwise fun a b => inOrder less a b = true)
    (hlength : left.length ≤ right.length) (hlength' : right.length ≤ left.length + 1) :
    mergeBothEnds less left right = some (left.merge right (inOrder less)) := by
  have hmeet := not_overlap h hleft hright hlength
  obtain ⟨s, hs⟩ : ∃ s, mergeBothEnds less left right = some s := by
    rw [mergeBothEnds, if_pos hmeet]
    exact ⟨_, rfl⟩
  have hperm := perm_of_mergeBothEnds hs
  rw [hs]
  rw [mergeBothEnds, if_pos hmeet] at hs
  obtain rfl := Option.some.inj hs
  have hfront := merge_eq_take_append (inOrder less) left.length left right
  have hback : left.merge right (inOrder less) = _ :=
    ((Sorts.of_pairwise hleft).merge_front h (.of_pairwise hright)).unique h
      ((Sorts.of_pairwise hleft).merge_back h (.of_pairwise hright))
  rw [merge_eq_take_append (inOrder fun a b => less b a) left.length, List.reverse_append] at hback
  have hsum := hperm.length_eq
  have hvalues := length_values_take (p := inOrder less) (Nat.le_refl _) hlength
  have hvalues' := length_values_take_reverse (p := inOrder fun a b => less b a) hlength
  rw [List.append_assoc _ _ (List.take _ _)] at hperm hsum ⊢
  refine congrArg some (eq_of_perm_of_ends hfront hback
    (hperm.trans (List.merge_perm_append _).symm) ?_)
  simp only [List.length_append, List.length_reverse, hvalues, hvalues'] at hsum ⊢
  omega

end CardSearch.StableSort
