import CardSearch.Proofs.StableSort.Steps

/-!
# What a sort gives

A sort is made of steps, so what its steps keep holds of its result. Each routine has one lemma
here: for short stretches, for the runs of a list, for their merging and for dividing. It follows
that the result of a sort is a permutation, and that a comparison that orders values up to ties
gives the stable arrangement of every list.
-/

namespace CardSearch.StableSort

variable {α : Type} {less : α → α → Bool} {mayFail : Prop} {R : List α → List α → Prop}
  {l l₁ l₂ s : List α}

/-! ### Short stretches -/

namespace Kept

variable (hR : Kept less mayFail R)

include hR

lemma insertAll (hs : R l s) (further : List α) :
    R (l ++ further) (insertAll less s further) := by
  induction further generalizing l s with
  | nil =>
    rw [List.append_nil, StableSort.insertAll, List.foldl_nil, List.reverse_reverse]
    exact hs
  | cons x further ih =>
    have hnext := ih (hR.insert hs (x := x))
    rw [StableSort.insertAll, List.reverse_reverse, List.append_assoc] at hnext
    exact hnext

lemma sortEight (hl : l.length = 8) : Yields mayFail (R l) (sortEight less l) := by
  have hfirst : (l.take 4).length = 4 := by rw [List.length_take]; omega
  have hsecond : (l.drop 4).length = 4 := by rw [List.length_drop]; omega
  have hboth := hR.bothEnds (hR.four hfirst) (hR.four hsecond) (by omega) (by omega)
  rw [List.take_append_drop] at hboth
  exact hboth

lemma sortHalf {total : Nat} (h16 : 16 ≤ total → 8 ≤ l.length) (h8 : 8 ≤ total → 4 ≤ l.length) :
    Yields mayFail (R l) (sortHalf less total l) := by
  have hparts (n : Nat) {s : List α} (hs : R (l.take n) s) :
      R l (StableSort.insertAll less s (l.drop n)) := by
    have hall := hR.insertAll hs (l.drop n)
    rw [List.take_append_drop] at hall
    exact hall
  rw [StableSort.sortHalf]
  split
  · next htotal =>
    have hlength : (l.take 8).length = 8 := by
      rw [List.length_take, Nat.min_eq_left (h16 htotal)]
    exact (hR.sortEight hlength).map fun s hs => hparts 8 hs
  split
  · next htotal =>
    refine hparts 4 (hR.four ?_)
    rw [List.length_take, Nat.min_eq_left (h8 htotal)]
  · refine hparts 1 (hR.rising ?_)
    match l with
    | [] => exact .nil
    | a :: l => exact .singleton a

lemma sortShort (l : List α) : Yields mayFail (R l) (sortShort less l) := by
  have hfirst : (l.take (l.length / 2)).length = l.length / 2 := by
    rw [List.length_take]
    omega
  have hsecond : (l.drop (l.length / 2)).length = l.length - l.length / 2 := List.length_drop
  refine (hR.sortHalf (by omega) (by omega)).bind fun left hleft => ?_
  refine (hR.sortHalf (by omega) (by omega)).bind fun right hright => ?_
  have hboth := hR.bothEnds hleft hright (by omega) (by omega)
  rw [List.take_append_drop] at hboth
  exact hboth

end Kept

/-! ### Runs -/

lemma append_chain (next : α → α → Bool) (a : α) (l : List α) :
    (chain next a l).1 ++ (chain next a l).2 = l := by
  induction l generalizing a with
  | nil => rfl
  | cons b l ih =>
    rw [chain]
    split
    · exact congrArg (b :: ·) (ih b)
    · rfl

lemma isChain_chain (next : α → α → Bool) (a : α) (l : List α) :
    (a :: (chain next a l).1).IsChain fun a b => next a b = true := by
  induction l generalizing a with
  | nil => exact .singleton a
  | cons b l ih =>
    rw [chain]
    split
    · next hab => exact .cons_cons hab (ih b)
    · exact .singleton a

/-- The leading run is a beginning of the list, put in order. -/
lemma Kept.leadingRun (hR : Kept less mayFail R) (a : α) (l : List α) :
    ∃ m, R m (leadingRun less a l).1 ∧ m ++ (leadingRun less a l).2 = a :: l := by
  rw [StableSort.leadingRun]
  split
  · exact ⟨_, hR.falling (isChain_chain _ a l), congrArg (a :: ·) (append_chain _ a l)⟩
  · exact ⟨_, hR.rising (isChain_chain _ a l), congrArg (a :: ·) (append_chain _ a l)⟩

/-- A run stands for a stretch of a list. -/
inductive Covers (R : List α → List α → Prop) : List α → Run α → Prop
  | sorted {l s : List α} (hs : R l s) : Covers R l ⟨s, true⟩
  | unsorted (l : List α) : Covers R l ⟨l, false⟩

/-- Some runs stand for a list together. -/
inductive CoversAll (R : List α → List α → Prop) : List α → List (Run α) → Prop
  | nil : CoversAll R [] []
  | cons {l m : List α} {r : Run α} {runs : List (Run α)} (hr : Covers R l r)
      (hruns : CoversAll R m runs) : CoversAll R (l ++ m) (r :: runs)

lemma Kept.cut (hR : Kept less mayFail R) (enough stretch : Nat) (l : List α) :
    CoversAll R l (cut less enough stretch l) := by
  fun_induction StableSort.cut less enough stretch l with
  | case1 => exact .nil
  | case2 a l _ ih =>
    obtain ⟨m, hm, hl⟩ := hR.leadingRun a l
    rw [← hl]
    exact .cons (.sorted hm) ih
  | case3 a l _ ih =>
    have hcut := CoversAll.cons (.unsorted (a :: l.take (stretch - 1))) ih
    rw [List.cons_append, List.take_append_drop] at hcut
    exact hcut

section

variable {finish : List α → Option (List α)} {r : Run α} {room : Nat}

lemma Covers.sort (hfinish : ∀ l, Yields mayFail (R l) (finish l)) (hr : Covers R l r) :
    Yields mayFail (R l) (r.sort finish) := by
  cases hr with
  | sorted hs => exact hs
  | unsorted => exact hfinish l

/-- Runs can be sorted one by one. -/
lemma CoversAll.sortEach (hfinish : ∀ l, Yields mayFail (R l) (finish l)) {runs : List (Run α)}
    (hruns : CoversAll R l runs) : Yields mayFail (CoversAll R l)
      (runs.mapM fun r => (r.sort finish).map fun vs => (⟨vs, true⟩ : Run α)) := by
  induction hruns with
  | nil => exact .nil
  | cons hr _ ih =>
    rw [List.mapM_cons]
    refine ((hr.sort hfinish).map fun s hs => Covers.sorted hs).bind fun r' hr' => ?_
    exact ih.bind fun runs' hruns' => CoversAll.cons hr' hruns'

/-! ### Merging runs -/

lemma Kept.join (hR : Kept less mayFail R) (hfinish : ∀ l, Yields mayFail (R l) (finish l))
    {left right : Run α} (hleft : Covers R l₁ left) (hright : Covers R l₂ right) :
    Yields mayFail (Covers R (l₁ ++ l₂)) (join less finish room left right) := by
  rw [StableSort.join]
  split
  · refine (hleft.sort hfinish).bind fun s₁ hs₁ => ?_
    refine (hright.sort hfinish).bind fun s₂ hs₂ => ?_
    exact Covers.sorted (hR.merge hs₁ hs₂)
  · next hneither =>
    rw [Bool.or_eq_true, Bool.or_eq_true, not_or, not_or] at hneither
    cases hleft with
    | sorted => exact absurd rfl hneither.1.1
    | unsorted =>
      cases hright with
      | sorted => exact absurd rfl hneither.1.2
      | unsorted => exact Covers.unsorted (l₁ ++ l₂)

/-- The runs of a stack, from its bottom, and a last one stand for a list. -/
inductive Stacked (R : List α → List α → Prop) : List α → List (Run α × Nat) → Run α → Prop
  | bottom {l : List α} {last : Run α} (hlast : Covers R l last) : Stacked R l [] last
  | push {l₁ l₂ : List α} {left last : Run α} {stack : List (Run α × Nat)} (d : Nat)
      (hstack : Stacked R l₁ stack left) (hlast : Covers R l₂ last) :
      Stacked R (l₁ ++ l₂) ((left, d) :: stack) last

/-- The last run can be replaced. -/
lemma Stacked.exists_last {stack : List (Run α × Nat)} {last : Run α}
    (h : Stacked R l stack last) : ∃ m₁ m₂, l = m₁ ++ m₂ ∧ Covers R m₂ last ∧
      ∀ m last', Covers R m last' → Stacked R (m₁ ++ m) stack last' := by
  cases h with
  | bottom hlast => exact ⟨[], l, rfl, hlast, fun m last' h => .bottom h⟩
  | push d hstack hlast => exact ⟨_, _, rfl, hlast, fun m last' h => .push d hstack h⟩

lemma Kept.collapse (hR : Kept less mayFail R) (hfinish : ∀ l, Yields mayFail (R l) (finish l))
    (depth : Nat) {stack : List (Run α × Nat)} {last : Run α} (h : Stacked R l stack last) :
    Yields mayFail (fun s => Stacked R l s.1 s.2 ∧ (depth = 0 → s.1 = []))
      (collapse less finish room depth stack last) := by
  induction stack generalizing l last with
  | nil => exact ⟨h, fun _ => rfl⟩
  | cons top stack ih =>
    rw [StableSort.collapse]
    split
    · cases h with
      | push d hstack hlast =>
        obtain ⟨m₁, m₂, rfl, hleft, hreplace⟩ := hstack.exists_last
        refine (hR.join hfinish hleft hlast).bind fun joined hjoined => ?_
        rw [List.append_assoc]
        exact ih (hreplace _ _ hjoined)
    · next hdeep => exact ⟨h, fun hdepth => absurd (hdepth ▸ Nat.zero_le _) hdeep⟩

lemma Kept.joinAll (hR : Kept less mayFail R) (hfinish : ∀ l, Yields mayFail (R l) (finish l))
    (scale start : Nat) {stack : List (Run α × Nat)} {last : Run α} {runs : List (Run α)}
    (h : Stacked R l₁ stack last) (hruns : CoversAll R l₂ runs) :
    Yields mayFail (Covers R (l₁ ++ l₂))
      (joinAll less finish room scale start stack last runs) := by
  induction hruns generalizing l₁ start stack last with
  | nil =>
    rw [StableSort.joinAll, List.append_nil]
    refine (hR.collapse hfinish 0 h).map fun s hs => ?_
    obtain ⟨hs, hempty⟩ := hs
    obtain ⟨stack', last'⟩ := s
    obtain rfl := hempty rfl
    cases hs with
    | bottom hlast => exact hlast
  | cons hr _ ih =>
    rw [StableSort.joinAll, ← List.append_assoc]
    exact (hR.collapse hfinish _ h).bind fun s hs => ih _ (.push _ hs.1 hr)

lemma Kept.startingRuns (hR : Kept less mayFail R) (eager : Bool) (l : List α) :
    Yields mayFail (CoversAll R l) (startingRuns less eager l) := by
  rw [StableSort.startingRuns]
  split
  · exact (hR.cut _ _ l).sortEach hR.sortShort
  · exact hR.cut _ _ l

lemma Kept.sortByRuns (hR : Kept less mayFail R) (hfinish : ∀ l, Yields mayFail (R l) (finish l))
    (eager : Bool) (l : List α) : Yields mayFail (R l) (sortByRuns less finish eager l) := by
  refine (hR.startingRuns eager l).bind fun runs hruns => ?_
  cases hruns with
  | nil => exact hR.nil
  | cons hr hruns =>
    exact (hR.joinAll hfinish _ 0 (.bottom hr) hruns).bind fun all hall => hall.sort hfinish

end

/-! ### Dividing -/

lemma Kept.divide (hR : Kept less mayFail R) (limit : Nat) {bound : Option α}
    (hbound : ∀ b ∈ bound, ∀ x ∈ l, inOrder less b x = true) :
    Yields mayFail (R l) (divide less limit bound l) := by
  fun_induction StableSort.divide less limit bound l with
  | case1 => exact hR.sortShort _
  | case2 => exact hR.sortByRuns hR.sortShort true _
  | case3 => exact hR.nil
  | case4 bound limit first rest hlong p below hnone ih =>
    dsimp only
    rw [if_pos hnone]
    refine Yields.bind (ih fun b hb => by cases hb) fun above habove => hR.least ?_ habove
    rcases (Bool.or_eq_true _ _).mp hnone with hany | hempty
    · cases bound with
      | none => cases hany
      | some b => exact .inr ⟨b, hany, hbound b rfl⟩
    · have hbelow := List.filter_eq_nil_iff.mp (List.isEmpty_iff.mp hempty)
      exact .inl fun x hx => inOrder_iff.mpr (eq_false_of_ne_true (hbelow x hx))
  | case5 bound limit first rest hlong p below hsome ihlower ihupper =>
    dsimp only
    rw [if_neg hsome]
    refine Yields.bind (ihlower fun b hb x hx => hbound b hb x (List.mem_filter.mp hx).1)
      fun lower hlower => ?_
    refine Yields.bind (ihupper fun b hb x hx => ?_) fun upper hupper => hR.parts hlower hupper
    obtain rfl := Option.some.inj hb
    exact (List.mem_filter.mp hx).2

/-! ### Sorting -/

lemma Kept.sort (hR : Kept less mayFail R) (l : List α) : Yields mayFail (R l) (sort less l) := by
  rw [StableSort.sort]
  split
  · exact hR.insertAll hR.nil l
  split
  · exact hR.sortByRuns hR.sortShort true l
  · exact hR.sortByRuns (fun vs => hR.divide _ fun b hb => by cases hb) false l

lemma perm_of_sort (hs : sort less l = some s) : s.Perm l := by
  have hsort := (kept_perm less).sort l
  rw [hs] at hsort
  exact hsort

/-- A comparison that orders values up to ties gives the stable arrangement. -/
lemma sort_eq_some (h : WeakOrder less) (l : List α) :
    sort less l = some (l.mergeSort (inOrder less)) := by
  have hsort := (kept_sorts h).sort l
  cases hs : sort less l with
  | none => rw [hs] at hsort; cases hsort
  | some s =>
    rw [hs] at hsort
    rw [Sorts.eq_mergeSort h hsort]

/-! ### Comparisons -/

section

variable (cmp : α → α → Ordering)

lemma inOrder_cmp [Std.OrientedCmp cmp] (a b : α) :
    inOrder (fun a b => cmp a b == .lt) a b = (cmp a b).isLE := by
  have hswap : cmp b a = (cmp a b).swap := Std.OrientedCmp.eq_swap
  rw [inOrder, hswap]
  cases cmp a b <;> rfl

lemma tied_cmp [Std.OrientedCmp cmp] (a b : α) :
    tied (fun a b => cmp a b == .lt) a b = (cmp a b == .eq) := by
  have hswap : cmp b a = (cmp a b).swap := Std.OrientedCmp.eq_swap
  rw [tied, inOrder_cmp, inOrder_cmp, hswap]
  cases cmp a b <;> rfl

lemma weakOrder_cmp [Std.TransCmp cmp] : WeakOrder fun a b => cmp a b == .lt where
  asymm a b hab := by
    have hswap : cmp b a = (cmp a b).swap := Std.OrientedCmp.eq_swap
    rw [hswap, beq_iff_eq.mp hab]
    rfl
  trans a b c := by
    rw [inOrder_cmp, inOrder_cmp, inOrder_cmp]
    exact Std.TransCmp.isLE_trans

/-- What the merge sort of the library gives is the stable arrangement. -/
lemma sorts_mergeSort_cmp [Std.TransCmp cmp] (l : List α) :
    (l.mergeSort fun a b => (cmp a b).isLE).Pairwise (fun a b => (cmp a b).isLE) ∧
      ∀ a, (l.mergeSort fun a b => (cmp a b).isLE).filter (cmp a · == .eq) =
        l.filter (cmp a · == .eq) := by
  have hsorts := sorts_mergeSort (weakOrder_cmp cmp) l
  have hinOrder := funext₂ (inOrder_cmp cmp)
  have htied := funext₂ (tied_cmp cmp)
  rw [hinOrder] at hsorts
  obtain ⟨hsorted, hstable⟩ := hsorts
  simp only [inOrder_cmp] at hsorted
  simp only [htied] at hstable
  exact ⟨hsorted, hstable⟩

end

end CardSearch.StableSort

namespace CardSearch

variable {α : Type} {cmp : α → α → Ordering} {l s : List α}

/-- Sorting loses no value and adds none. -/
lemma perm_of_stableSort (hs : stableSort cmp l = some s) : s.Perm l := by
  obtain ⟨s', hs', rfl⟩ := Option.map_eq_some_iff.mp hs
  have hperm := (StableSort.perm_of_sort hs').map Subtype.val
  rw [List.attach_map_subtype_val] at hperm
  exact hperm

/-- Where the members of a list are ordered up to ties, sorting has a result. -/
lemma stableSort_eq_some (h : Std.TransCmp fun a b : {a // a ∈ l} => cmp a b) :
    stableSort cmp l = some (l.mergeSort fun a b => (cmp a b).isLE) := by
  have hmap := List.map_mergeSort (l := l.attach) (f := Subtype.val)
    (s := fun a b => (cmp a b).isLE) fun a _ b _ =>
      StableSort.inOrder_cmp (fun a b : {a // a ∈ l} => cmp a b) a b
  rw [List.attach_map_subtype_val] at hmap
  rw [stableSort, StableSort.sort_eq_some (StableSort.weakOrder_cmp _), Option.map_some, ← hmap]
  rfl

end CardSearch
