import CardSearch.Environment
import CardSearch.Proofs.Sorting.Preorder
import CardSearch.Proofs.StableSort.Runs
import Mathlib.Data.List.FinRange

/-!
# The sorted arrangement

The results of a search are places in the list that is searched, its rows, since records that look
the same are still different rows. Where the key fields of the records can be ranked, sort keys
leave no choice in the order of the rows: no row stands before a lesser one, and rows that tie stand
in their order in the list. Only one arrangement of the rows is such, and sorting gives it. Records
without the field of the first key are at its end, in either direction.
-/

namespace CardSearch

open SortKey (compareRecords fieldValues)

/-! ### Rows -/

/-- A place in a list of records. -/
def Row {α : Type} (rs : List α) : Type := Fin rs.length

namespace Row

variable {α : Type} {rs : List α}

instance : LinearOrder (Row rs) := inferInstanceAs (LinearOrder (Fin rs.length))

/-- The record at a row. -/
def get (i : Row rs) : α := List.get rs i

lemma get_mem (i : Row rs) : i.get ∈ rs := List.get_mem rs i

/-- A row is searched as the record that stands there. -/
instance [Searchable α] : Searchable (Row rs) := ⟨fun i => record i.get⟩

/-- All rows, in their order. -/
def all (rs : List α) : List (Row rs) := List.finRange rs.length

@[simp] lemma map_get_all (rs : List α) : (all rs).map get = rs := List.map_get_finRange rs

@[simp] lemma mem_all (i : Row rs) : i ∈ all rs := List.mem_finRange i

lemma pairwise_all (rs : List α) : (all rs).Pairwise (· < ·) := List.pairwise_lt_finRange rs.length

end Row

section

variable {α : Type} [Searchable α] {rs : List α} {ks : List SortKey} {field : String}

/-! ### Fields that can be ranked -/

/-- What the records of a list hold in a field can be ranked: all texts or all numbers, apart from
those that are absent. -/
def RankableIn (rs : List α) (field : String) : Prop :=
  Value.Rankable (fieldValues (· ∈ rs.map record) field)

lemma fieldValues_of_mem {r : α} (hr : r ∈ rs) :
    fieldValues (· ∈ rs.map record) field ((record r).field field) :=
  ⟨record r, List.mem_map_of_mem hr, rfl⟩

lemma RankableIn.of_subset {rs' : List α} (h : RankableIn rs field) (hsubset : rs' ⊆ rs) :
    RankableIn rs' field := by
  have hvalues (v : Value) (hv : fieldValues (· ∈ rs'.map record) field v) :
      fieldValues (· ∈ rs.map record) field v := by
    obtain ⟨r, hr, rfl⟩ := hv
    exact ⟨r, List.map_subset record hsubset hr, rfl⟩
  exact ⟨fun s x hs hx => h.kind s x (hvalues _ hs) (hvalues _ hx),
    fun x hx => h.number x (hvalues _ hx)⟩

/-- A field that holds no numbers can be ranked. -/
lemma rankableIn_of_no_number (h : ∀ r ∈ rs, ∀ x, (record r).field field ≠ .number x) :
    RankableIn rs field where
  kind := by
    rintro s x - ⟨_, hq, hx⟩
    obtain ⟨r, hr, rfl⟩ := List.mem_map.mp hq
    exact h r hr x hx
  number := by
    rintro x ⟨_, hq, hx⟩
    obtain ⟨r, hr, rfl⟩ := List.mem_map.mp hq
    exact absurd hx (h r hr x)

lemma compareRecords_isLE_trans (h : ∀ k ∈ ks, RankableIn rs k.field) {a b c : α}
    (ha : a ∈ rs) (hb : b ∈ rs) (hc : c ∈ rs)
    (hab : (compareRecords ks (record a) (record b)).isLE)
    (hbc : (compareRecords ks (record b) (record c)).isLE) :
    (compareRecords ks (record a) (record c)).isLE :=
  (SortKey.transCmp_compareRecords ks h).isLE_trans (a := ⟨record a, List.mem_map_of_mem ha⟩)
    (b := ⟨record b, List.mem_map_of_mem hb⟩) (c := ⟨record c, List.mem_map_of_mem hc⟩) hab hbc

/-- Sort keys order whatever stands for records of a list up to ties. -/
lemma transCmp_of_mem {β : Type} {f : β → α} (h : ∀ k ∈ ks, RankableIn rs k.field)
    (hf : ∀ i, f i ∈ rs) :
    Std.TransCmp fun i j => compareRecords ks (record (f i)) (record (f j)) where
  eq_swap := SortKey.compareRecords_swap ks _ _
  isLE_trans := compareRecords_isLE_trans h (hf _) (hf _) (hf _)

/-! ### Arrangements -/

/-- An arrangement of the rows of a list by sort keys: every row once, none before a lesser one,
and tied rows in the order of the list. -/
structure Arranged (ks : List SortKey) (rows : List (Row rs)) : Prop where
  perm : rows.Perm (Row.all rs)
  sorted : rows.Pairwise fun i j => compareRecords ks (record i) (record j) ≠ .gt
  stable : rows.Pairwise fun i j => compareRecords ks (record i) (record j) = .eq → i < j

namespace Arranged

variable {rows rows' : List (Row rs)}

/-- Rows that do not come after one another tie, and tied rows have one order only. -/
lemma unique (h : Arranged ks rows) (h' : Arranged ks rows') : rows = rows' := by
  refine List.Perm.eq_of_pairwise ?_ (h.sorted.and h.stable) (h'.sorted.and h'.stable)
    (h.perm.trans h'.perm.symm)
  rintro i j - - ⟨hij, hlt⟩ ⟨hji, hgt⟩
  have hswap := SortKey.compareRecords_swap ks (record i) (record j)
  cases htie : compareRecords ks (record i) (record j) with
  | lt =>
    rw [htie] at hswap
    exact absurd hswap hji
  | gt => exact absurd htie hij
  | eq =>
    rw [htie] at hswap
    exact absurd (hlt htie) (hgt hswap).not_gt

lemma perm_map_get (h : Arranged ks rows) : (rows.map Row.get).Perm rs := by
  have hperm := h.perm.map Row.get
  rwa [Row.map_get_all] at hperm

/-- No record of the arranged list comes after a later one. -/
lemma pairwise_map_get (h : Arranged ks rows) : (rows.map Row.get).Pairwise fun a b =>
    (compareRecords ks (record a) (record b)).isLE :=
  List.pairwise_map.mpr (h.sorted.imp Ordering.ne_gt_iff_isLE.mp)

/-- A record without the field of the first key stands behind all records that carry it. -/
lemma absent_last (h : Arranged ks rows) {k : SortKey} (hk : k ∈ ks.head?) :
    (rows.map Row.get).Pairwise fun a b =>
      (record a).field k.field = .absent → (record b).field k.field = .absent := by
  obtain ⟨ks', rfl⟩ := List.head?_eq_some_iff.mp hk
  refine h.pairwise_map_get.imp fun {a b} hab ha => ?_
  rw [SortKey.compareRecords_cons, Ordering.isLE_then_iff_and, ha] at hab
  exact (k.order_absent_left_isLE_iff _).mp hab.1

end Arranged

/-! ### Sorting -/

/-- Merging the rows arranges them. -/
lemma arranged_mergeSort (h : ∀ k ∈ ks, RankableIn rs k.field) :
    Arranged ks ((Row.all rs).mergeSort fun i j =>
      (compareRecords ks (record i) (record j)).isLE) := by
  have hcmp : Std.TransCmp fun i j : Row rs => compareRecords ks (record i) (record j) :=
    transCmp_of_mem (f := Row.get) h Row.get_mem
  obtain ⟨hsorted, hstable⟩ := StableSort.sorts_mergeSort_cmp
    (fun i j : Row rs => compareRecords ks (record i) (record j)) (Row.all rs)
  refine ⟨List.mergeSort_perm _ _, hsorted.imp Ordering.ne_gt_iff_isLE.mpr, ?_⟩
  rw [List.pairwise_iff_forall_sublist]
  intro i j hij htie
  -- Both rows are of one class of ties, which stands in the order of the list.
  have hclass := hij.filter fun l => compareRecords ks (record i) (record l) == .eq
  have hboth :
      [i, j].filter (fun l => compareRecords ks (record i) (record l) == .eq) = [i, j] := by
    simp [htie]
  rw [hstable, hboth] at hclass
  exact List.pairwise_pair.mp ((Row.pairwise_all rs).sublist (hclass.trans List.filter_sublist))

namespace Environment

variable {env : Environment}

/-- Sorting permutes, where it has a result. -/
lemma perm_of_sort {s : List α} (hs : env.sort rs = some s) : s.Perm rs := by
  rw [sort] at hs
  split at hs
  · obtain rfl := Option.some.inj hs
    exact .refl _
  · exact perm_of_stableSort hs

lemma sort_eq_mergeSort (h : ∀ k ∈ env.sorting, RankableIn rs k.field) :
    env.sort rs = some (rs.mergeSort fun a b =>
      (compareRecords env.sorting (record a) (record b)).isLE) := by
  rw [sort]
  split
  · next hempty =>
    rw [List.isEmpty_iff.mp hempty]
    exact congrArg some (List.mergeSort_of_pairwise (List.pairwise_of_forall fun _ _ => rfl)).symm
  · exact stableSort_eq_some (transCmp_of_mem h Subtype.property)

/-- Where the key fields can be ranked, sorting arranges the rows. -/
lemma exists_arranged (env : Environment) (rs : List α)
    (h : ∀ k ∈ env.sorting, RankableIn rs k.field) :
    ∃ rows : List (Row rs), env.sort rs = some (rows.map Row.get) ∧ Arranged env.sorting rows := by
  refine ⟨_, ?_, arranged_mergeSort h⟩
  have hmap := List.map_mergeSort (l := Row.all rs) (f := Row.get)
    (s := fun a b => (compareRecords env.sorting (record a) (record b)).isLE) fun _ _ _ _ => rfl
  rw [Row.map_get_all] at hmap
  rw [sort_eq_mergeSort h, ← hmap]
  rfl

/-- On records whose key fields can be ranked the comparison is a total preorder, and sorting gives
the one arrangement of the rows in which no row stands before a lesser one and tied rows keep
their order. Records without the field of the first key come last in it. -/
theorem sort_unique_arrangement (env : Environment) (rs : List α)
    (h : ∀ k ∈ env.sorting, RankableIn rs k.field) :
    ((∀ a ∈ rs, ∀ b ∈ rs, compareRecords env.sorting (record b) (record a) =
        (compareRecords env.sorting (record a) (record b)).swap) ∧
      ∀ a ∈ rs, ∀ b ∈ rs, ∀ c ∈ rs,
        compareRecords env.sorting (record a) (record b) ≠ .gt →
        compareRecords env.sorting (record b) (record c) ≠ .gt →
        compareRecords env.sorting (record a) (record c) ≠ .gt) ∧
    ∃ rows : List (Row rs), env.sort rs = some (rows.map Row.get) ∧ Arranged env.sorting rows ∧
      (∀ rows' : List (Row rs), Arranged env.sorting rows' → rows' = rows) ∧
      ∀ k ∈ env.sorting.head?, (rows.map Row.get).Pairwise fun a b =>
        (record a).field k.field = .absent → (record b).field k.field = .absent := by
  refine ⟨⟨?_, ?_⟩, ?_⟩
  · intro a _ b _
    exact SortKey.compareRecords_swap env.sorting (record a) (record b)
  · intro a ha b hb c hc hab hbc
    rw [ne_eq, Ordering.ne_gt_iff_isLE] at hab hbc ⊢
    exact compareRecords_isLE_trans h ha hb hc hab hbc
  · obtain ⟨rows, hsort, harranged⟩ := exists_arranged env rs h
    exact ⟨rows, hsort, harranged, fun rows' h' => h'.unique harranged,
      fun k hk => harranged.absent_last hk⟩

/-- Two spellings of a name tie and keep their order, before a weaker card and one whose power is
not known. -/
theorem sort_unique_arrangement_two_spellings :
    ∃ (upper lower weak unknown : Card) (env : Environment),
      env.sorting = [⟨"power", .descending⟩, ⟨"name", .ascending⟩] ∧
      (∀ k ∈ env.sorting, RankableIn [upper, unknown, weak, lower] k.field) ∧
      ∃ rows : List (Row [upper, unknown, weak, lower]),
        [upper, lower, weak, unknown] = rows.map Row.get ∧ Arranged env.sorting rows ∧
        ∀ rows' : List (Row [upper, unknown, weak, lower]),
          Arranged env.sorting rows' → rows' = rows := by
  let upper : Card := ⟨[("name", .text "ANT"), ("power", .number (.integer 5))]⟩
  let lower : Card := ⟨[("name", .text "ant"), ("power", .number (.integer 5))]⟩
  let weak : Card := ⟨[("name", .text "ant"), ("power", .number (.integer 2))]⟩
  let unknown : Card := ⟨[("name", .text "Ant"), ("power", .null)]⟩
  let env : Environment := { sorting := [⟨"power", .descending⟩, ⟨"name", .ascending⟩] }
  have hrank : ∀ k ∈ env.sorting, RankableIn [upper, unknown, weak, lower] k.field := by
    intro k hk
    apply Card.rankable_of_not_mixed
    · simp [upper, lower, weak, unknown, Card.IsNaNFree, Json.isNaNFree, -Prod.forall]
    · simp only [env, List.mem_cons, List.not_mem_nil, or_false] at hk
      rcases hk with rfl | rfl
      all_goals simp [upper, lower, weak, unknown, Card.Mixed, Card.field, Json.Members.get?,
        Json.fieldValue, List.lookup_cons]
  have hsort : env.sort [upper, unknown, weak, lower] = some [upper, lower, weak, unknown] := by
    rfl
  obtain ⟨rows, hrows, harranged, hunique, -⟩ :=
    (sort_unique_arrangement env [upper, unknown, weak, lower] hrank).2
  rw [hsort, Option.some.injEq] at hrows
  exact ⟨upper, lower, weak, unknown, env, rfl, hrank, rows, hrows, harranged, hunique⟩

end Environment

end

end CardSearch
