import CardSearch.Card
import CardSearch.Proofs.Search.Partition
import CardSearch.Proofs.Text.Lowered

/-!
# Group keys as words of filters

The key of a text is the text in lower case, and a filter puts its word in lower case as well. To
do so twice is to do so once, so the key of a group is a word that `=` finds exactly that group
with. Records without the field have no key, and no filter of the field finds them.
-/

namespace CardSearch

namespace Value

/-! ### Keys and words -/

variable {v : Value} {k : String}

/-- A text equals a word if its key is the word in lower case. -/
lemma compareWord_eq_iff (hv : ∀ x, v ≠ .number x) (word : String) :
    compareWord v .eq word = true ↔ v.key = some (Text.lower word) := by
  cases v with
  | number x => exact absurd rfl (hv x)
  | absent => simp
  | text s =>
    rw [compareWord, compareText, Operator.holds, beq_iff_eq,
      Std.LawfulEqCmp.compare_eq_iff_eq, key_text, Option.some.injEq, eq_comm]
    simp

lemma lower_of_key_eq_some (hv : ∀ x, v ≠ .number x) (hk : v.key = some k) :
    Text.lower k = k := by
  cases v with
  | number x => exact absurd rfl (hv x)
  | absent => cases hk
  | text s =>
    cases hk
    exact Text.lower_lower s

lemma compareWord_key_iff {w : Value} (hv : ∀ x, v ≠ .number x) (hw : ∀ x, w ≠ .number x)
    (hk : w.key = some k) : compareWord v .eq k = true ↔ v.key = some k := by
  rw [compareWord_eq_iff hv, lower_of_key_eq_some hw hk]

/-- Only an absent value passes no filter. -/
lemma eq_absent_iff : v = .absent ↔ ∀ o word, compareWord v o word = false := by
  constructor
  · rintro rfl o word
    rfl
  · intro h
    cases v with
    | absent => rfl
    | text s =>
      have hself : compareWord (.text s) .eq s = true := by
        rw [compareWord_eq_iff (by simp), key_text]
      rw [h] at hself
      cases hself
    | number x =>
      -- every number differs from what is no number
      have hnan : compareWord (.number x) .ne "NaN" = true := by
        have hread : Number.read? (Text.trim "NaN") = some .nan := by decide
        have horder : Number.nan.compare? x = none := by
          rw [Number.compare?]
          rfl
        rw [compareWord_number_of_some hread, horder]
        rfl
      rw [h] at hnan
      cases hnan

end Value

/-! ### Groups of one field -/

variable {α : Type} [Searchable α]

/-- No filter of a field keeps a record, whatever its operator and its word. -/
def Unmatched (field : String) (r : α) : Prop :=
  ∀ o word, compareWord ((record r).field field) o word = false

lemma unmatched_iff {field : String} {r : α} :
    Unmatched field r ↔ ((record r).field field).key = none := by
  rw [Value.key_eq_none_iff, Value.eq_absent_iff]
  rfl

instance (field : String) : DecidablePred (Unmatched (α := α) field) :=
  fun _ => decidable_of_iff _ unmatched_iff.symm

variable {field : String} {rs : List α}

namespace Environment

lemma exists_key_of_mem_group {env : Environment} (henv : env.grouping = [field]) {g : Group α}
    (hg : g ∈ env.group rs) :
    ∃ q ∈ rs, g.key = [((record q).field field).key] ∧ g.records =
      rs.filter fun r => ((record r).field field).key == ((record q).field field).key := by
  have h := env.partition_group rs
  rw [henv] at h
  obtain ⟨q, hq, hkey⟩ := List.mem_map.mp (h.mem_keys_iff.mp (List.mem_map_of_mem hg))
  refine ⟨q, hq, hkey.symm, ?_⟩
  rw [h.members g hg, ← hkey]
  simp [groupKey]

lemma mem_group_of_mem (env : Environment) (henv : env.grouping = [field]) {r : α}
    (hr : r ∈ rs) :
    ∃ g ∈ env.group rs, g.key = [((record r).field field).key] ∧ r ∈ g.records := by
  have h := env.partition_group rs
  rw [henv] at h
  obtain ⟨g, ⟨hg, hrg⟩, -⟩ := h.existsUnique_group hr
  exact ⟨g, hg, (h.key_eq hg hrg).symm, hrg⟩

/-- Where a field holds texts, the records of a group are those whose field equals its key. The
records of the group without a key are those that no filter of the field finds. -/
theorem group_key_selects (env : Environment) (field : String) (rs : List α)
    (h : ∀ r ∈ rs, ∀ x, (record r).field field ≠ .number x) :
    let groups := { env with grouping := [field] }.group rs
    (∀ g ∈ groups,
      (∃ k, g.key = [some k] ∧
        g.records = rs.filter fun r => compareWord ((record r).field field) .eq k) ∨
      (g.key = [none] ∧ g.records = rs.filter fun r => Unmatched field r)) ∧
    ∀ r ∈ rs, Unmatched field r → ∃ g ∈ groups, g.key = [none] ∧ r ∈ g.records := by
  constructor
  · intro g hg
    obtain ⟨q, hq, hkey, hrecords⟩ := exists_key_of_mem_group rfl hg
    cases hk : ((record q).field field).key with
    | some k =>
      left
      refine ⟨k, by rw [hkey, hk], ?_⟩
      rw [hrecords, hk]
      refine List.filter_congr fun r hr => ?_
      rw [Bool.eq_iff_iff, beq_iff_eq, Value.compareWord_key_iff (h r hr) (h q hq) hk]
    | none =>
      right
      refine ⟨by rw [hkey, hk], ?_⟩
      rw [hrecords, hk]
      refine List.filter_congr fun r _ => ?_
      rw [Bool.eq_iff_iff, beq_iff_eq, decide_eq_true_iff, unmatched_iff]
  · intro r hr hunmatched
    obtain ⟨g, hg, hkey, hrg⟩ :=
      mem_group_of_mem { env with grouping := [field] } rfl hr
    rw [unmatched_iff.mp hunmatched] at hkey
    exact ⟨g, hg, hkey, hrg⟩

/-- Two spellings of a street with a final sigma are one group. With another sigma at its end it is
another one, and a card without the field stands apart. -/
theorem group_key_selects_final_sigma :
    ∃ cards : List Card, (∀ r ∈ cards, ∀ x, (record r).field "set" ≠ .number x) ∧
      let groups := Environment.group { grouping := ["set"] } cards
      groups.map Group.key = [[some "οδος"], [none], [some "οδοσ"]] ∧
      (∀ g ∈ groups,
        (∃ k, g.key = [some k] ∧
          g.records = cards.filter fun r => compareWord ((record r).field "set") .eq k) ∨
        (g.key = [none] ∧ g.records = cards.filter fun r => Unmatched "set" r)) ∧
      ∀ r ∈ cards, Unmatched "set" r → ∃ g ∈ groups, g.key = [none] ∧ r ∈ g.records := by
  let cards : List Card :=
    [⟨[("set", .text "ΟΔΟΣ")]⟩, ⟨[]⟩, ⟨[("set", .text "οδοσ")]⟩, ⟨[("set", .text "οδος")]⟩]
  have htexts : ∀ r ∈ cards, ∀ x, (record r).field "set" ≠ .number x := by
    simp [cards, Card.field, Json.Members.get?, Json.fieldValue]
  have hkeys : (Environment.group { grouping := ["set"] } cards).map Group.key =
      [[some "οδος"], [none], [some "οδοσ"]] := by
    decide +kernel
  exact ⟨cards, htexts, hkeys, group_key_selects {} "set" cards htexts⟩

end Environment

end CardSearch
