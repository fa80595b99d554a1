import CardSearch.Proofs.Search.Partition
import Mathlib.Data.List.Triplewise

/-!
# Groups of sorted results

Grouping collects the records of each key from the whole list. Where the records of one key stand
next to one another already, it only cuts the list into pieces. So it does when results that were
sorted by some fields are grouped by the first of them: records between two ones that tie on a list
of keys tie with both.
-/

namespace CardSearch

/-! ### Lists whose equal keys stand together -/

section

variable {α β : Type} {key : α → β} {a : α} {l : List α}

/-- Between two members with the same key there is none with another one. -/
def Contiguous (key : α → β) (l : List α) : Prop :=
  l.Triplewise fun a b c => key a = key c → key b = key c

lemma contiguous_cons : Contiguous key (a :: l) ↔
    l.Pairwise (fun b c => key a = key c → key b = key c) ∧ Contiguous key l :=
  List.triplewise_cons

lemma contiguous_of_pairwise {R : α → α → Prop} (hl : l.Pairwise R)
    (h : ∀ a ∈ l, ∀ b ∈ l, ∀ c ∈ l, R a b → R b c → key a = key c → key b = key c) :
    Contiguous key l := by
  induction l with
  | nil => exact List.Triplewise.nil
  | cons a l ih =>
    obtain ⟨ha, hl⟩ := List.pairwise_cons.mp hl
    refine contiguous_cons.mpr ⟨?_, ih hl fun b hb c hc d hd => ?_⟩
    · apply hl.imp_of_mem
      intro b c hb hc hbc
      exact h a List.mem_cons_self b (List.mem_cons_of_mem a hb) c (List.mem_cons_of_mem a hc)
        (ha b hb) hbc
    · exact h b (List.mem_cons_of_mem a hb) c (List.mem_cons_of_mem a hc) d
        (List.mem_cons_of_mem a hd)

lemma Contiguous.filter (h : Contiguous key l) (p : α → Bool) : Contiguous key (l.filter p) := by
  induction l with
  | nil => exact h
  | cons a l ih =>
    obtain ⟨ha, hl⟩ := contiguous_cons.mp h
    rw [List.filter_cons]
    split_ifs
    · exact contiguous_cons.mpr ⟨ha.filter p, ih hl⟩
    · exact ih hl

lemma filter_append_filter_not {p : α → Bool}
    (h : l.Pairwise fun a b => p b = true → p a = true) :
    l.filter p ++ l.filter (fun a => !p a) = l := by
  induction l with
  | nil => rfl
  | cons a l ih =>
    obtain ⟨ha, hl⟩ := List.pairwise_cons.mp h
    by_cases hp : p a = true
    · simp [hp, ih hl]
    · have hnone : ∀ b ∈ l, p b = false := by
        intro b hb
        rw [← Bool.not_eq_true]
        exact fun hpb => hp (ha b hb hpb)
      have hempty : l.filter p = [] := by simpa using hnone
      have hall : l.filter (fun b => !p b) = l := by simpa using hnone
      simp [hp, hempty, hall]

variable [BEq β] [LawfulBEq β]

/-- The members with the key that comes first stand in front of all others. -/
lemma Contiguous.filter_first_append (h : Contiguous key (a :: l)) :
    (a :: l).filter (key · == key a) ++ l.filter (fun b => !(key b == key a)) = a :: l := by
  have hl : l.filter (key · == key a) ++ l.filter (fun b => !(key b == key a)) = l := by
    apply filter_append_filter_not
    refine (contiguous_cons.mp h).1.imp fun hbc hc => ?_
    rw [beq_iff_eq] at hc ⊢
    rw [hbc hc.symm, hc]
  simp [hl]

lemma Contiguous.flatMap_filter {l : List α} (h : Contiguous key l) :
    (l.map key).eraseDups.flatMap (fun k => l.filter (key · == k)) = l := by
  match l with
  | [] => rfl
  | a :: l =>
    have ih := ((contiguous_cons.mp h).2.filter fun b => !(key b == key a)).flatMap_filter
    -- the members of any other key are untouched when those of the first are taken out
    have hother : ∀ k ∈ ((l.filter fun b => !(key b == key a)).map key).eraseDups,
        (a :: l).filter (key · == k) =
          (l.filter fun b => !(key b == key a)).filter (key · == k) := by
      intro k hk
      rw [List.mem_eraseDups, List.mem_map] at hk
      obtain ⟨b, hb, rfl⟩ := hk
      have hne : key b ≠ key a := by simpa using (List.mem_filter.mp hb).2
      rw [List.filter_cons_of_neg (by simpa using hne.symm), List.filter_filter]
      apply List.filter_congr
      intro c _
      by_cases hc : key c = key b <;> simp [hc, hne]
    rw [List.map_cons, List.eraseDups_cons, List.filter_map, List.flatMap_cons]
    change _ ++ ((l.filter fun b => !(key b == key a)).map key).eraseDups.flatMap _ = _
    rw [List.flatMap_congr hother, ih]
    exact h.filter_first_append
termination_by l.length
decreasing_by exact Nat.lt_succ_of_le (List.length_filter_le _ l)

end

/-! ### Ties of texts -/

namespace SortKey

variable {k : SortKey} {ks : List SortKey} {v w : Value}

/-- Texts and absent values tie where they are grouped together. -/
lemma order_eq_eq_iff_key_eq (hv : ∀ x, v ≠ .number x) (hw : ∀ x, w ≠ .number x) :
    k.order v w = .eq ↔ v.key = w.key := by
  cases v with
  | number x => exact absurd rfl (hv x)
  | absent => cases w <;> simp [order, compare?, Value.compare?]
  | text s =>
    cases w with
    | number y => exact absurd rfl (hw y)
    | absent => simp [order, compare?, Value.compare?]
    | text t =>
      rw [order_text, Direction.apply_eq_eq_iff, Std.LawfulEqCmp.compare_eq_iff_eq]
      simp

lemma compareRecords_append (ks ls : List SortKey) (a b : Record) :
    compareRecords (ks ++ ls) a b = (compareRecords ks a b).then (compareRecords ls a b) := by
  induction ks with
  | nil => rfl
  | cons k ks ih => rw [List.cons_append, compareRecords_cons, compareRecords_cons, ih,
      Ordering.then_assoc]

variable {α : Type} [Searchable α] {a b : α}

/-- Where each key ties the records that share a value of its field, so does the list of keys. -/
lemma compareRecords_eq_eq_iff_groupKey_eq
    (h : ∀ k ∈ ks, k.order ((record a).field k.field) ((record b).field k.field) = .eq ↔
      ((record a).field k.field).key = ((record b).field k.field).key) :
    compareRecords ks (record a) (record b) = .eq ↔
      groupKey (ks.map field) a = groupKey (ks.map field) b := by
  induction ks with
  | nil => simp [compareRecords, groupKey]
  | cons k ks ih =>
    obtain ⟨hk, hks⟩ := List.forall_mem_cons.mp h
    have ih := ih hks
    rw [groupKey, groupKey, List.map_map, List.map_map] at ih ⊢
    rw [compareRecords_cons, Ordering.then_eq_eq, hk, ih]
    simp

end SortKey

/-! ### Groups of sorted results -/

section

variable {α : Type} [Searchable α] {rs : List α}

lemma flatMap_groupBy {fields : List String} (h : Contiguous (groupKey fields) rs) :
    (groupBy fields rs).flatMap Group.records = rs := by
  rw [groupBy, List.flatMap_map]
  exact h.flatMap_filter

lemma infix_of_mem_groupBy {fields : List String} (h : Contiguous (groupKey fields) rs)
    {g : Group α} (hg : g ∈ groupBy fields rs) : g.records <:+: rs := by
  have hinfix := List.infix_of_mem_flatten (List.mem_map_of_mem (f := Group.records) hg)
  rwa [← List.flatMap_def, flatMap_groupBy h] at hinfix

namespace Environment

/-- Records between two ones that tie on the leading keys tie with both. -/
lemma contiguous_of_sorted {sorted : List α} {leading : List SortKey}
    (htexts : ∀ k ∈ leading, ∀ r ∈ sorted, ∀ x, (record r).field k.field ≠ .number x)
    (hsorted : sorted.Pairwise fun a b =>
      (SortKey.compareRecords leading (record a) (record b)).isLE) :
    Contiguous (groupKey (leading.map SortKey.field)) sorted := by
  have hleading : ∀ k ∈ leading, RankableIn sorted k.field :=
    fun k hk => rankableIn_of_no_number (htexts k hk)
  have htie {a b : α} (ha : a ∈ sorted) (hb : b ∈ sorted) :
      SortKey.compareRecords leading (record a) (record b) = .eq ↔
        groupKey (leading.map SortKey.field) a = groupKey (leading.map SortKey.field) b :=
    SortKey.compareRecords_eq_eq_iff_groupKey_eq fun k hk =>
      SortKey.order_eq_eq_iff_key_eq (htexts k hk a ha) (htexts k hk b hb)
  refine contiguous_of_pairwise hsorted fun a ha b hb c hc hab hbc hkey => ?_
  have hca : (SortKey.compareRecords leading (record c) (record a)).isLE := by
    rw [(htie hc ha).mpr hkey.symm]
    rfl
  have hcb := compareRecords_isLE_trans hleading hc ha hb hca hab
  rw [SortKey.compareRecords_swap leading (record b) (record c), Ordering.isLE_swap] at hcb
  exact (htie hb hc).mp (Ordering.eq_eq_of_isLE_of_isGE hbc hcb)

/-- Results that are sorted by some fields of texts, and then by others, fall into groups by the
first ones as they stand: putting the groups together again gives the sorted results. -/
theorem flatMap_group_sort (env : Environment) (leading further : List SortKey) (rs : List α)
    (hsorting : env.sorting = leading ++ further)
    (hgrouping : env.grouping = leading.map SortKey.field)
    (htexts : ∀ f ∈ env.grouping, ∀ r ∈ rs, ∀ x, (record r).field f ≠ .number x)
    (hfurther : ∀ k ∈ further, RankableIn rs k.field) :
    ∃ sorted, env.sort rs = some sorted ∧
      (env.group sorted).flatMap Group.records = sorted ∧
      ∀ g ∈ env.group sorted, g.records <:+: sorted := by
  have hleading : ∀ k ∈ leading, ∀ r ∈ rs, ∀ x, (record r).field k.field ≠ .number x := by
    intro k hk
    apply htexts
    rw [hgrouping]
    exact List.mem_map_of_mem hk
  obtain ⟨rows, hsort, harranged⟩ := exists_arranged env rs (by
    rw [hsorting]
    exact List.forall_mem_append.mpr
      ⟨fun k hk => rankableIn_of_no_number (hleading k hk), hfurther⟩)
  have hcontiguous : Contiguous (groupKey env.grouping) (rows.map Row.get) := by
    rw [hgrouping]
    refine contiguous_of_sorted (fun k hk r hr => ?_) (harranged.pairwise_map_get.imp fun hab => ?_)
    · exact hleading k hk r (harranged.perm_map_get.mem_iff.mp hr)
    · rw [hsorting, SortKey.compareRecords_append, Ordering.isLE_then_iff_and] at hab
      exact hab.1
  refine ⟨_, hsort, ?_, fun g hg => ?_⟩
  · rw [group_eq_groupBy]
    exact flatMap_groupBy hcontiguous
  · rw [group_eq_groupBy] at hg
    exact infix_of_mem_groupBy hcontiguous hg

/-- Two spellings of a set stand together, between another set and a card without one. -/
theorem flatMap_group_sort_two_sets :
    ∃ (strong weak promo loose : Card) (env : Environment),
      env.sorting = [⟨"set", .descending⟩] ++ [⟨"power", .ascending⟩] ∧
      env.grouping = ["set"] ∧
      env.sort [strong, loose, weak, promo] = some [promo, weak, strong, loose] ∧
      (env.group [promo, weak, strong, loose]).flatMap Group.records =
        [promo, weak, strong, loose] := by
  let strong : Card := ⟨[("power", .number (.integer 5)), ("set", .text "Core")]⟩
  let weak : Card := ⟨[("power", .number (.integer 2)), ("set", .text "CORE")]⟩
  let promo : Card := ⟨[("power", .number (.integer 9)), ("set", .text "Promo")]⟩
  let loose : Card := ⟨[("power", .number (.integer 1))]⟩
  let env : Environment :=
    { sorting := [⟨"set", .descending⟩, ⟨"power", .ascending⟩], grouping := ["set"] }
  have htexts : ∀ f ∈ env.grouping, ∀ r ∈ [strong, loose, weak, promo], ∀ x,
      (record r).field f ≠ .number x := by
    simp [env, strong, loose, weak, promo, Card.field, Json.Members.get?, Json.fieldValue,
      List.lookup_cons]
  have hpower : ∀ k ∈ [(⟨"power", .ascending⟩ : SortKey)],
      RankableIn [strong, loose, weak, promo] k.field := by
    intro k hk
    apply Card.rankable_of_not_mixed
    · simp [strong, loose, weak, promo, Card.IsNaNFree, Json.isNaNFree, -Prod.forall]
    · rw [List.mem_singleton] at hk
      simp [hk, strong, loose, weak, promo, Card.Mixed, Card.field, Json.Members.get?,
        Json.fieldValue]
  have hsort : env.sort [strong, loose, weak, promo] = some [promo, weak, strong, loose] := by rfl
  obtain ⟨sorted, hsorted, hgroups, -⟩ :=
    flatMap_group_sort env [⟨"set", .descending⟩] [⟨"power", .ascending⟩]
      [strong, loose, weak, promo] rfl rfl htexts hpower
  obtain rfl := Option.some.inj (hsort.symm.trans hsorted)
  exact ⟨strong, weak, promo, loose, env, rfl, rfl, hsort, hgroups⟩

end Environment

end

end CardSearch
