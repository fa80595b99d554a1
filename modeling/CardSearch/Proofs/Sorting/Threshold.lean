import CardSearch.Filter
import CardSearch.Proofs.Sorting.Arrangement

/-!
# Thresholds in sorted results

The word of a filter is the left side of its order: `p>3` keeps the records whose power is below
three. So `>` and `>=` hold of values below the word, and `<` and `<=` of values above it. Filters
and sort keys order the values of a field in the same way. Such a filter therefore cuts the records
that carry the field in one place when they are sorted by it.
-/

namespace CardSearch

namespace Operator

/-- The operators that hold of values below the word. -/
def below : List Operator := [.gt, .ge]

/-- The operators that hold of values above the word. -/
def above : List Operator := [.lt, .le]

/-- The first outcome of a comparison is no greater than the second. -/
def NoGreater (d c : Ordering) : Prop := (c = .lt → d = .lt) ∧ (d = .gt → c = .gt)

variable {o : Operator} {c d : Ordering}

lemma cases_of_below (ho : o ∈ below) : o = .gt ∨ o = .ge := by simpa [below] using ho

lemma cases_of_above (ho : o ∈ above) : o = .lt ∨ o = .le := by simpa [above] using ho

lemma holds_of_below (ho : o ∈ below) (hdc : NoGreater d c) (h : o.holds d = true) :
    o.holds c = true := by
  rcases cases_of_below ho with rfl | rfl
  all_goals cases c <;> cases d <;> simp_all [NoGreater, holds]

lemma holds_of_above (ho : o ∈ above) (hdc : NoGreater d c) (h : o.holds c = true) :
    o.holds d = true := by
  rcases cases_of_above ho with rfl | rfl
  all_goals cases c <;> cases d <;> simp_all [NoGreater, holds]

/-- Compared with the greater of two things, anything comes out no greater. -/
lemma noGreater_of_isLE {α : Type} {cmp : α → α → Ordering} [Std.TransCmp cmp] {a b : α} (w : α)
    (hab : (cmp a b).isLE) : NoGreater (cmp w b) (cmp w a) := by
  constructor
  · intro hwa
    exact Std.TransCmp.lt_of_lt_of_isLE hwa hab
  · intro hwb
    exact Std.TransCmp.gt_of_gt_of_isGE hwb (Std.OrientedCmp.isGE_iff_isLE.mpr hab)

end Operator

lemma Number.compare?_eq_some_iff {x y : Number} {c : Ordering} :
    x.compare? y = some c ↔ x.isNaN = false ∧ y.isNaN = false ∧ compare x.rank y.rank = c := by
  rw [Number.compare?]
  cases x.isNaN <;> cases y.isNaN <;> simp

lemma compareText_eq_holds {o : Operator} (h : o ≠ .has) (s word : String) :
    compareText s o word = o.holds (compare (Text.lower word) (Text.lower s)) := by
  cases o with
  | has => exact absurd rfl h
  | _ => rfl

/-- A word that does not stand for a number, or for what is not a number, passes neither of two
numbers. -/
lemma compareNumber_cases {o : Operator} {x y : Number} (hx : x.isNaN = false)
    (hy : y.isNaN = false) (hxy : (compare x.rank y.rank).isLE) (hne : o ≠ .ne) (word : String) :
    (compareNumber x o word = false ∧ compareNumber y o word = false) ∨
      ∃ c d, Operator.NoGreater d c ∧ compareNumber x o word = o.holds c ∧
        compareNumber y o word = o.holds d := by
  unfold compareNumber
  cases Number.read? (Text.trim word) with
  | none => exact .inl ⟨rfl, rfl⟩
  | some z =>
    cases hz : z.isNaN with
    | true => simp [Number.compare?, hz, hne]
    | false =>
      right
      refine ⟨_, _, Operator.noGreater_of_isLE z.rank hxy, ?_, ?_⟩
      · simp only [Number.compare?_of_isNaN_eq_false hz hx]
      · simp only [Number.compare?_of_isNaN_eq_false hz hy]

namespace Value

/-! ### Words and values -/

/-- A value can be compared with another one and does not come after it. -/
def AtMost (v w : Value) : Prop := ∃ c, v.compare? w = some c ∧ c.isLE

variable {v w : Value} {o : Operator} {word : String}

/-- Only values of one kind are in order, apart from those that are absent. -/
lemma AtMost.cases (h : v.AtMost w) (hw : w ≠ .absent) :
    (∃ s t, v = .text s ∧ w = .text t ∧ (compare (Text.lower s) (Text.lower t)).isLE) ∨
      ∃ x y, v = .number x ∧ w = .number y ∧ x.isNaN = false ∧ y.isNaN = false ∧
        (compare x.rank y.rank).isLE := by
  obtain ⟨c, hc, hle⟩ := h
  cases v with
  | text s =>
    cases w with
    | text t =>
      cases hc
      exact .inl ⟨s, t, rfl, rfl, hle⟩
    | number y => cases hc
    | absent => exact absurd rfl hw
  | number x =>
    cases w with
    | text t => cases hc
    | number y =>
      obtain ⟨hx, hy, rfl⟩ := Number.compare?_eq_some_iff.mp hc
      exact .inr ⟨x, y, rfl, rfl, hx, hy, hle⟩
    | absent => exact absurd rfl hw
  | absent =>
    cases w with
    | absent => exact absurd rfl hw
    | text t =>
      cases hc
      cases hle
    | number y =>
      cases hc
      cases hle

/-- Filters compare a word with two values in the order in which keys sort the values. -/
lemma AtMost.compareWord_cases (h : v.AtMost w) (hw : w ≠ .absent) (hhas : o ≠ .has)
    (hne : o ≠ .ne) (word : String) :
    (compareWord v o word = false ∧ compareWord w o word = false) ∨
      ∃ c d, Operator.NoGreater d c ∧ compareWord v o word = o.holds c ∧
        compareWord w o word = o.holds d := by
  rcases h.cases hw with ⟨s, t, rfl, rfl, hst⟩ | ⟨x, y, rfl, rfl, hx, hy, hxy⟩
  · right
    exact ⟨_, _, Operator.noGreater_of_isLE (Text.lower word) hst,
      compareText_eq_holds hhas s word, compareText_eq_holds hhas t word⟩
  · exact compareNumber_cases hx hy hxy hne word

lemma AtMost.compareWord_below (h : v.AtMost w) (ho : o ∈ Operator.below)
    (hword : compareWord w o word = true) : compareWord v o word = true := by
  have hw : w ≠ .absent := by
    rintro rfl
    cases hword
  have hhas : o ≠ .has := by rcases Operator.cases_of_below ho with rfl | rfl <;> simp
  have hne : o ≠ .ne := by rcases Operator.cases_of_below ho with rfl | rfl <;> simp
  rcases h.compareWord_cases hw hhas hne word with ⟨-, hfalse⟩ | ⟨c, d, hdc, hc, hd⟩
  · rw [hfalse] at hword
    cases hword
  · rw [hd] at hword
    rw [hc]
    exact Operator.holds_of_below ho hdc hword

lemma AtMost.compareWord_above (h : v.AtMost w) (hw : w ≠ .absent) (ho : o ∈ Operator.above)
    (hword : compareWord v o word = true) : compareWord w o word = true := by
  have hhas : o ≠ .has := by rcases Operator.cases_of_above ho with rfl | rfl <;> simp
  have hne : o ≠ .ne := by rcases Operator.cases_of_above ho with rfl | rfl <;> simp
  rcases h.compareWord_cases hw hhas hne word with ⟨hfalse, -⟩ | ⟨c, d, hdc, hc, hd⟩
  · rw [hfalse] at hword
    cases hword
  · rw [hc] at hword
    rw [hd]
    exact Operator.holds_of_above ho hdc hword

lemma Rankable.exists_compare? {S : Value → Prop} (h : Rankable S) (hv : S v) (hw : S w) :
    ∃ c, v.compare? w = some c := by
  cases v with
  | text s =>
    cases w with
    | text t => exact ⟨_, rfl⟩
    | number y => exact absurd hw (h.kind s y hv)
    | absent => exact ⟨_, rfl⟩
  | number x =>
    cases w with
    | text t => exact absurd hv (h.kind t x hw)
    | number y => exact ⟨_, Number.compare?_of_isNaN_eq_false (h.number x hv) (h.number y hw)⟩
    | absent => exact ⟨_, rfl⟩
  | absent => cases w <;> exact ⟨_, rfl⟩

end Value

/-! ### Sorted by one field -/

section

variable {α : Type} [Searchable α]

/-- A record has a value in a field. -/
def Carries (field : String) (r : α) : Prop := (record r).field field ≠ Value.absent

/-- A record passes the filter of a field. -/
def Passes (field : String) (o : Operator) (word : String) (r : α) : Prop :=
  compareWord ((record r).field field) o word = true

end

namespace SortKey

variable {S : Value → Prop} {v w : Value} {field : String}

lemma atMost_of_ascending (h : Value.Rankable S) (hv : S v) (hw : S w)
    (hle : (order ⟨field, .ascending⟩ v w).isLE) : v.AtMost w := by
  obtain ⟨c, hc⟩ := h.exists_compare? hv hw
  have hvw : compare? ⟨field, .ascending⟩ v w = some c := by
    by_cases habsent : v = .absent ∨ w = .absent
    · rw [compare?_of_absent _ habsent, hc]
    · obtain ⟨hva, hwa⟩ := not_or.mp habsent
      rw [compare?_of_present _ hva hwa, hc]
      rfl
  rw [order, hvw] at hle
  exact ⟨c, hc, hle⟩

lemma atMost_of_descending (h : Value.Rankable S) (hv : S v) (hw : S w) (hva : v ≠ .absent)
    (hwa : w ≠ .absent) (hle : (order ⟨field, .descending⟩ v w).isLE) : w.AtMost v := by
  obtain ⟨c, hc⟩ := h.exists_compare? hw hv
  rw [order, compare?_of_present _ hva hwa, w.compare?_swap v, hc] at hle
  refine ⟨c, hc, ?_⟩
  cases c <;> first | rfl | cases hle

lemma compareRecords_singleton (k : SortKey) (a b : Record) :
    compareRecords [k] a b = k.order (a.field k.field) (b.field k.field) := by
  rw [compareRecords_cons]
  exact Ordering.then_eq

end SortKey

namespace Environment

variable {α : Type} [Searchable α]

lemma exists_sort_by (env : Environment) {k : SortKey} {rs : List α}
    (h : RankableIn rs k.field) :
    ∃ sorted, { env with sorting := [k] }.sort rs = some sorted ∧ sorted.Perm rs ∧
      sorted.Pairwise fun a b =>
        (k.order ((record a).field k.field) ((record b).field k.field)).isLE := by
  obtain ⟨rows, hsort, harranged⟩ :=
    exists_arranged { env with sorting := [k] } rs (by simpa using h)
  refine ⟨_, hsort, harranged.perm_map_get, ?_⟩
  simpa only [SortKey.compareRecords_singleton] using harranged.pairwise_map_get

/-- Sorted upward by a field, the records that `>` or `>=` keeps come before the others, and among
those that carry the field the records that `<` or `<=` keeps come after the others. Sorted
downward it is the other way round for the records that carry the field. -/
theorem sort_threshold (env : Environment) (field word : String) (rs : List α)
    (h : RankableIn rs field) :
    (∃ upward, { env with sorting := [⟨field, .ascending⟩] }.sort rs = some upward ∧
      upward.Pairwise fun a b =>
        (∀ o ∈ Operator.below, Passes field o word b → Passes field o word a) ∧
        ∀ o ∈ Operator.above, Carries field b → Passes field o word a → Passes field o word b) ∧
    ∃ downward, { env with sorting := [⟨field, .descending⟩] }.sort rs = some downward ∧
      downward.Pairwise fun a b => Carries field a → Carries field b →
        (∀ o ∈ Operator.below, Passes field o word a → Passes field o word b) ∧
        ∀ o ∈ Operator.above, Passes field o word b → Passes field o word a := by
  constructor
  · obtain ⟨upward, hsort, hperm, hsorted⟩ := env.exists_sort_by (k := ⟨field, .ascending⟩) h
    refine ⟨upward, hsort, hsorted.imp_of_mem fun {a b} ha hb hle => ?_⟩
    have hab := SortKey.atMost_of_ascending h (fieldValues_of_mem (hperm.mem_iff.mp ha))
      (fieldValues_of_mem (hperm.mem_iff.mp hb)) hle
    exact ⟨fun o ho => hab.compareWord_below ho, fun o ho hvb => hab.compareWord_above hvb ho⟩
  · obtain ⟨downward, hsort, hperm, hsorted⟩ := env.exists_sort_by (k := ⟨field, .descending⟩) h
    refine ⟨downward, hsort, hsorted.imp_of_mem fun {a b} ha hb hle hva hvb => ?_⟩
    have hba := SortKey.atMost_of_descending h (fieldValues_of_mem (hperm.mem_iff.mp ha))
      (fieldValues_of_mem (hperm.mem_iff.mp hb)) hva hvb hle
    exact ⟨fun o ho => hba.compareWord_below ho, fun o ho => hba.compareWord_above hva ho⟩

/-- Where a power of five is below the word, so is the power of two that is sorted before it. -/
theorem sort_threshold_two_powers :
    ∃ (two five unknown : Card) (env : Environment),
      RankableIn [five, unknown, two] "power" ∧
      { env with sorting := [⟨"power", .ascending⟩] }.sort [five, unknown, two] =
        some [two, five, unknown] ∧
      Passes "power" .gt "6" five ∧ Passes "power" .gt "6" two := by
  let two : Card := ⟨[("power", .number (.integer 2))]⟩
  let five : Card := ⟨[("power", .number (.integer 5))]⟩
  let unknown : Card := ⟨[("power", .null)]⟩
  let k : SortKey := ⟨"power", .ascending⟩
  have hrank : RankableIn [five, unknown, two] "power" := by
    apply Card.rankable_of_not_mixed
    · simp [five, unknown, two, Card.IsNaNFree, Json.isNaNFree]
    · simp [five, unknown, two, Card.Mixed, Card.field, Json.Members.get?, Json.fieldValue]
  have hsort : Environment.sort { sorting := [k] } [five, unknown, two] =
      some [two, five, unknown] := by rfl
  have hpasses : Passes "power" .gt "6" five := by
    change compareWord (.number (.ofInt 5)) .gt "6" = true
    decide
  obtain ⟨upward, hupward, hsorted⟩ :=
    (sort_threshold {} "power" "6" [five, unknown, two] hrank).1
  obtain rfl := Option.some.inj (hsort.symm.trans hupward)
  have hpair := (List.pairwise_cons.mp hsorted).1 five List.mem_cons_self
  exact ⟨two, five, unknown, {}, hrank, hsort, hpasses, hpair.1 .gt (by decide) hpasses⟩

end Environment

end CardSearch
