import CardSearch.Card
import CardSearch.Proofs.Number.Whole
import CardSearch.SortKey

/-!
# Sorting as a preorder

A key that cannot compare two records counts them as equal. The comparison by a list of keys is
oriented all the same: the other way round it is reversed. It is transitive on records whose key
fields can be ranked, that is, hold no text beside a number; a text that stands between two numbers
equals both of them.

`SortKey.order` is the order by one key with that rule built in, and the order by a list of keys is
lexicographic in it.
-/

namespace CardSearch

namespace Number

variable {x y z : Number}

lemma compare?_of_isNaN_eq_false (hx : x.isNaN = false) (hy : y.isNaN = false) :
    x.compare? y = some (compare x.rank y.rank) := by
  rw [compare?, hx, hy]
  rfl

lemma compare?_swap (x y : Number) : y.compare? x = (x.compare? y).map Ordering.swap := by
  rw [compare?, compare?, Bool.or_comm]
  split_ifs
  · rfl
  · rw [Option.map_some, Std.OrientedOrd.eq_swap (a := y.rank)]

end Number

namespace Value

lemma compare?_swap (v w : Value) : w.compare? v = (v.compare? w).map Ordering.swap := by
  cases v <;> cases w
  case text.text s t =>
    rw [compare?, compare?, Option.map_some, Std.OrientedOrd.eq_swap (a := Text.lower t)]
  case number.number x y => exact x.compare?_swap y
  all_goals rfl

/-- Values that can be compared with one another: no text stands beside a number, and every number
is one. -/
structure Rankable (S : Value → Prop) : Prop where
  kind : ∀ s x, S (.text s) → ¬ S (.number x)
  number : ∀ x, S (.number x) → x.isNaN = false

end Value

namespace Direction

lemma apply_swap (d : Direction) (o : Ordering) : d.apply o.swap = (d.apply o).swap := by
  cases d <;> rfl

lemma apply_eq_eq_iff {d : Direction} {o : Ordering} : d.apply o = .eq ↔ o = .eq := by
  cases d <;> cases o <;> simp [apply]

lemma apply_isLE_trans {α : Type} (cmp : α → α → Ordering) [Std.TransCmp cmp] (d : Direction)
    {a b c : α} (hab : (d.apply (cmp a b)).isLE) (hbc : (d.apply (cmp b c)).isLE) :
    (d.apply (cmp a c)).isLE := by
  cases d with
  | ascending =>
    simp only [apply] at hab hbc ⊢
    exact Std.TransCmp.isLE_trans hab hbc
  | descending =>
    simp only [apply, Ordering.isLE_swap] at hab hbc ⊢
    exact Std.TransCmp.isGE_trans hab hbc

end Direction

namespace SortKey

variable (k : SortKey)

/-! ### One key -/

/-- The order of two values by a key. Values that cannot be compared count as equal. -/
def order (v w : Value) : Ordering := (k.compare? v w).getD .eq

lemma compare?_of_absent {v w : Value} (h : v = .absent ∨ w = .absent) :
    k.compare? v w = v.compare? w := by
  rcases h with rfl | rfl
  · rfl
  · cases v <;> rfl

lemma compare?_of_present {v w : Value} (hv : v ≠ .absent) (hw : w ≠ .absent) :
    k.compare? v w = (v.compare? w).map k.direction.apply := by
  rw [compare?]
  · exact hv
  · exact hw

lemma compare?_swap (v w : Value) : k.compare? w v = (k.compare? v w).map Ordering.swap := by
  by_cases h : v = .absent ∨ w = .absent
  · rw [k.compare?_of_absent h, k.compare?_of_absent h.symm, v.compare?_swap w]
  · obtain ⟨hv, hw⟩ := not_or.mp h
    have hd : k.direction.apply ∘ Ordering.swap = Ordering.swap ∘ k.direction.apply :=
      funext k.direction.apply_swap
    rw [k.compare?_of_present hv hw, k.compare?_of_present hw hv, v.compare?_swap w,
      Option.map_map, Option.map_map, hd]

lemma order_swap (v w : Value) : k.order w v = (k.order v w).swap := by
  rw [order, order, k.compare?_swap v w]
  cases k.compare? v w <;> rfl

lemma order_text (s t : String) :
    k.order (.text s) (.text t) = k.direction.apply (compare (Text.lower s) (Text.lower t)) := rfl

lemma order_number {x y : Number} (hx : x.isNaN = false) (hy : y.isNaN = false) :
    k.order (.number x) (.number y) = k.direction.apply (compare x.rank y.rank) := by
  have hxy : (Value.number x).compare? (.number y) = some (compare x.rank y.rank) :=
    Number.compare?_of_isNaN_eq_false hx hy
  rw [order, k.compare?_of_present (by simp) (by simp), hxy]
  rfl

lemma order_absent_right_isLE (v : Value) : (k.order v .absent).isLE := by
  cases v <;> rfl

lemma order_absent_left_isLE_iff (v : Value) : (k.order .absent v).isLE ↔ v = .absent := by
  cases v <;> simp [order, compare?, Value.compare?]

/-- Among values that can be ranked only a text comes before a text. -/
lemma exists_text_of_order_isLE {S : Value → Prop} (h : Value.Rankable S) {v : Value} {t : String}
    (hv : S v) (ht : S (.text t)) (hvt : (k.order v (.text t)).isLE) : ∃ s, v = .text s := by
  cases v with
  | text s => exact ⟨s, rfl⟩
  | number x => exact absurd hv (h.kind t x ht)
  | absent => cases (k.order_absent_left_isLE_iff _).mp hvt

lemma exists_number_of_order_isLE {S : Value → Prop} (h : Value.Rankable S) {v : Value}
    {y : Number} (hv : S v) (hy : S (.number y)) (hvy : (k.order v (.number y)).isLE) :
    ∃ x, v = .number x := by
  cases v with
  | text s => exact absurd hy (h.kind s y hv)
  | number x => exact ⟨x, rfl⟩
  | absent => cases (k.order_absent_left_isLE_iff _).mp hvy

lemma order_isLE_trans {S : Value → Prop} (h : Value.Rankable S) {u v w : Value}
    (hu : S u) (hv : S v) (hw : S w) (huv : (k.order u v).isLE) (hvw : (k.order v w).isLE) :
    (k.order u w).isLE := by
  cases w with
  | absent => exact k.order_absent_right_isLE u
  | text r =>
    obtain ⟨t, rfl⟩ := k.exists_text_of_order_isLE h hv hw hvw
    obtain ⟨s, rfl⟩ := k.exists_text_of_order_isLE h hu hv huv
    rw [order_text] at huv hvw ⊢
    exact k.direction.apply_isLE_trans compare huv hvw
  | number z =>
    obtain ⟨y, rfl⟩ := k.exists_number_of_order_isLE h hv hw hvw
    obtain ⟨x, rfl⟩ := k.exists_number_of_order_isLE h hu hv huv
    have hx := h.number x hu
    have hy := h.number y hv
    have hz := h.number z hw
    rw [k.order_number hx hy] at huv
    rw [k.order_number hy hz] at hvw
    rw [k.order_number hx hz]
    exact k.direction.apply_isLE_trans compare huv hvw

/-! ### Lists of keys -/

lemma compareRecords_cons (ks : List SortKey) (a b : Record) :
    compareRecords (k :: ks) a b =
      (k.order (a.field k.field) (b.field k.field)).then (compareRecords ks a b) := by
  rw [compareRecords, order]
  cases k.compare? (a.field k.field) (b.field k.field) with
  | none => rfl
  | some o => cases o <;> rfl

lemma compareRecords_swap (ks : List SortKey) (a b : Record) :
    compareRecords ks b a = (compareRecords ks a b).swap := by
  induction ks with
  | nil => rfl
  | cons k ks ih =>
    rw [compareRecords_cons, compareRecords_cons, Ordering.swap_then, ih, order_swap]

@[simp] lemma compareRecords_self (ks : List SortKey) (a : Record) :
    compareRecords ks a a = .eq := by
  have hswap := compareRecords_swap ks a a
  cases h : compareRecords ks a a <;> rw [h] at hswap <;> cases hswap

/-- The values of a field among some records. -/
def fieldValues (records : Record → Prop) (field : String) (v : Value) : Prop :=
  ∃ r, records r ∧ r.field field = v

/-- Among records whose key fields can be ranked, the comparison is a total preorder. -/
lemma transCmp_compareRecords {records : Record → Prop} (ks : List SortKey)
    (h : ∀ k ∈ ks, Value.Rankable (fieldValues records k.field)) :
    Std.TransCmp fun a b : {r // records r} => compareRecords ks a.1 b.1 := by
  induction ks with
  | nil => exact { eq_swap := rfl, isLE_trans := fun _ _ => rfl }
  | cons k ks ih =>
    have hks := ih fun k' hk' => h k' (List.mem_cons_of_mem k hk')
    have hk : Std.TransCmp fun a b : {r // records r} =>
        k.order (a.1.field k.field) (b.1.field k.field) := {
      eq_swap := k.order_swap _ _
      isLE_trans := fun {a b c} => k.order_isLE_trans (h k List.mem_cons_self)
        ⟨a.1, a.2, rfl⟩ ⟨b.1, b.2, rfl⟩ ⟨c.1, c.2, rfl⟩ }
    simp only [compareRecords_cons]
    exact inferInstanceAs (Std.TransCmp (compareLex _ _))

end SortKey

/-! ### Cards -/

/-- Whether a member of a document is not a number that is none. No JSON text writes such a one. -/
def Json.isNaNFree : Json → Bool
  | .number (.double x) => !x.isNaN
  | _                   => true

lemma Json.isNaN_of_fieldValue_eq {j : Json} {x : Number} (h : j.isNaNFree)
    (hx : j.fieldValue = .number x) : x.isNaN = false := by
  cases j with
  | number n =>
    cases n with
    | integer n =>
      cases hx
      exact Number.isNaN_ofInt n
    | double y =>
      cases hx
      change y.isNaN = false
      simpa [isNaNFree] using h
  | _ => cases hx

namespace Card

/-- All members of a card are such as JSON texts write. -/
def IsNaNFree (c : Card) : Prop := ∀ m ∈ c.fields, m.2.isNaNFree

lemma IsNaNFree.isNaN_eq_false {c : Card} (h : c.IsNaNFree) {f : String} {x : Number}
    (hx : c.field f = .number x) : x.isNaN = false := by
  rw [field, Json.Members.get?] at hx
  cases hj : c.fields.lookup f with
  | none => simp [hj] at hx
  | some j =>
    obtain ⟨before, after, hfields, -⟩ := List.lookup_eq_some_iff.mp hj
    have hm : (f, j) ∈ c.fields := by simp [hfields]
    rw [hj] at hx
    exact Json.isNaN_of_fieldValue_eq (h (f, j) hm) hx

/-- Some of the cards hold a text in a field, and some a number. -/
def Mixed (cards : List Card) (field : String) : Prop :=
  (∃ r ∈ cards, ∃ s, r.field field = .text s) ∧ ∃ r ∈ cards, ∃ x, r.field field = .number x

lemma rankable_of_not_mixed {cards : List Card} {field : String}
    (hn : ∀ r ∈ cards, r.IsNaNFree) (h : ¬ Mixed cards field) :
    Value.Rankable (SortKey.fieldValues (· ∈ cards.map record) field) where
  kind := by
    rintro s x ⟨_, ht, hs⟩ ⟨_, hu, hx⟩
    obtain ⟨t, htm, rfl⟩ := List.mem_map.mp ht
    obtain ⟨u, hum, rfl⟩ := List.mem_map.mp hu
    exact h ⟨⟨t, htm, s, hs⟩, u, hum, x, hx⟩
  number := by
    rintro x ⟨_, hr, hx⟩
    obtain ⟨r, hrm, rfl⟩ := List.mem_map.mp hr
    exact (hn r hrm).isNaN_eq_false hx

end Card

namespace SortKey

open Card (Mixed)

/-- Comparing two cards the other way round reverses the result. On cards that do not mix texts and
numbers in a key field, it is transitive as well. -/
theorem compareRecords_preorder (ks : List SortKey) :
    (∀ a b : Card, compareRecords ks (record b) (record a) =
      (compareRecords ks (record a) (record b)).swap) ∧
    ∀ a b c : Card, a.IsNaNFree → b.IsNaNFree → c.IsNaNFree →
      (∀ k ∈ ks, ¬ Mixed [a, b, c] k.field) →
      compareRecords ks (record a) (record b) ≠ .gt →
      compareRecords ks (record b) (record c) ≠ .gt →
      compareRecords ks (record a) (record c) ≠ .gt := by
  refine ⟨fun a b => compareRecords_swap ks (record a) (record b), ?_⟩
  intro a b c ha hb hc hmixed hab hbc
  have hnum : ∀ r ∈ [a, b, c], r.IsNaNFree := by simp [ha, hb, hc]
  have htrans := transCmp_compareRecords ks fun k hk =>
    Card.rankable_of_not_mixed hnum (hmixed k hk)
  rw [ne_eq, Ordering.ne_gt_iff_isLE] at hab hbc ⊢
  exact htrans.isLE_trans (a := ⟨record a, by simp⟩) (b := ⟨record b, by simp⟩)
    (c := ⟨record c, by simp⟩) hab hbc

/-- Two cards of equal power are ordered by their names, and a card without power comes last. -/
theorem compareRecords_preorder_absent_last :
    ∃ (ks : List SortKey) (a b c : Card), a.IsNaNFree ∧ b.IsNaNFree ∧ c.IsNaNFree ∧
      (∀ k ∈ ks, ¬ Mixed [a, b, c] k.field) ∧
      compareRecords ks (record a) (record b) = .lt ∧
      compareRecords ks (record b) (record c) = .lt ∧
      compareRecords ks (record a) (record c) ≠ .gt := by
  let a : Card := ⟨[("name", .text "Ant"), ("power", .number (.integer 3))]⟩
  let b : Card := ⟨[("name", .text "ape"), ("power", .number (.integer 3))]⟩
  let c : Card := ⟨[("name", .text "Ant"), ("power", .null)]⟩
  let ks : List SortKey := [⟨"power", .descending⟩, ⟨"name", .ascending⟩]
  have ha : a.IsNaNFree := by simp [a, Card.IsNaNFree, Json.isNaNFree]
  have hb : b.IsNaNFree := by simp [b, Card.IsNaNFree, Json.isNaNFree]
  have hc : c.IsNaNFree := by simp [c, Card.IsNaNFree, Json.isNaNFree]
  have hmixed : ∀ k ∈ ks, ¬ Mixed [a, b, c] k.field := by
    simp [ks, a, b, c, Mixed, Card.field, Json.Members.get?, Json.fieldValue, List.lookup_cons]
  have hab : compareRecords ks (record a) (record b) = .lt := by decide
  have hbc : compareRecords ks (record b) (record c) = .lt := by decide
  refine ⟨ks, a, b, c, ha, hb, hc, hmixed, hab, hbc, ?_⟩
  exact (compareRecords_preorder ks).2 a b c ha hb hc hmixed (by simp [hab]) (by simp [hbc])

/-- A text that stands between two numbers equals both of them, whichever is larger. -/
theorem compareRecords_text_between_numbers :
    ∃ (ks : List SortKey) (a b c : Card), a.IsNaNFree ∧ b.IsNaNFree ∧ c.IsNaNFree ∧
      compareRecords ks (record a) (record b) ≠ .gt ∧
      compareRecords ks (record b) (record c) ≠ .gt ∧
      compareRecords ks (record a) (record c) = .gt := by
  refine ⟨[⟨"f", .ascending⟩], ⟨[("f", .number (.integer 2))]⟩, ⟨[("f", .text "x")]⟩,
    ⟨[("f", .number (.integer 1))]⟩, ?_, ?_, ?_, by decide, by decide, by decide⟩
  all_goals simp [Card.IsNaNFree, Json.isNaNFree]

end SortKey

end CardSearch
