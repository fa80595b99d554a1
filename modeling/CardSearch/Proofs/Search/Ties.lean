import CardSearch.Proofs.Number.Plain
import CardSearch.Proofs.Search.Grouping
import CardSearch.Proofs.Sorting.Threshold

/-!
# Ties and shared keys

Sorting compares the values of a field, while grouping and leaving out further printings compare
their keys. For values of one kind that are present and no NaN the two agree, with one exception:
the two zeros tie, but they are written differently. Values of two kinds never tie, even where the
text is the number as it is written.
-/

namespace CardSearch

/-- Two numbers tie if they are the same or both are zeros. -/
lemma Number.compare?_eq_some_eq_iff {x y : Number} (hx : x.isNaN = false) (hy : y.isNaN = false) :
    x.compare? y = some .eq ↔ x = y ∨ x.isZero ∧ y.isZero := by
  rw [Number.compare?_of_isNaN_eq_false hx hy, Option.some.injEq,
    Std.LawfulEqCmp.compare_eq_iff_eq, Number.rank_eq_iff]

namespace Value

/-! ### Values that tie -/

/-- Whether this is present and no NaN. -/
def isProper : Value → Bool
  | .text _   => true
  | .number x => !x.isNaN
  | .absent   => false

/-- Whether these are two texts or two numbers. -/
def sameKind : Value → Value → Bool
  | .text _,   .text _   => true
  | .number _, .number _ => true
  | _,         _         => false

/-- Whether one of these is the positive zero and the other one the negative zero. -/
def oppositeZeros : Value → Value → Bool
  | .number x, .number y => x.isZero && y.isZero && x != y
  | _,         _         => false

/-- Two values that are present and no NaN, and that are not the two zeros. -/
structure Regular (v w : Value) : Prop where
  left : v.isProper
  right : w.isProper
  zeros : v.oppositeZeros w = false

variable {v w : Value}

lemma isNaN_of_isProper {x : Number} (h : (number x).isProper) : x.isNaN = false := by
  simpa [isProper] using h

lemma exists_key_of_isProper (h : v.isProper) : ∃ k, v.key = some k := by
  cases v with
  | text s => exact ⟨_, rfl⟩
  | number x => exact ⟨_, rfl⟩
  | absent => simp [isProper] at h

lemma Regular.exists_compare? (h : Regular v w) (hkind : v.sameKind w) :
    ∃ c, v.compare? w = some c := by
  obtain ⟨hv, hw, -⟩ := h
  cases v <;> cases w <;> simp [sameKind] at hkind
  case text.text s t => exact ⟨_, rfl⟩
  case number.number x y =>
    exact ⟨_, Number.compare?_of_isNaN_eq_false (isNaN_of_isProper hv) (isNaN_of_isProper hw)⟩

/-- Values tie if they are of one kind and share a key. -/
lemma Regular.compare?_eq_some_eq_iff (h : Regular v w) :
    v.compare? w = some .eq ↔ v.sameKind w ∧ v.key = w.key := by
  obtain ⟨hv, hw, hzeros⟩ := h
  cases v with
  | absent => simp [isProper] at hv
  | text s =>
    cases w with
    | absent => simp [isProper] at hw
    | number y => simp [compare?, sameKind]
    | text t =>
      rw [compare?, Option.some.injEq, Std.LawfulEqCmp.compare_eq_iff_eq]
      simp [sameKind]
  | number x =>
    cases w with
    | absent => simp [isProper] at hw
    | text t => simp [compare?, sameKind]
    | number y =>
      have hx := isNaN_of_isProper hv
      have hy := isNaN_of_isProper hw
      -- two zeros that are not opposite are one zero
      have hsame : x.isZero ∧ y.isZero → x = y := by simpa [oppositeZeros] using hzeros
      rw [compare?, Number.compare?_eq_some_eq_iff hx hy, key_number, key_number,
        Option.some.injEq, Number.write_plain_inj hx hy, or_iff_left_of_imp hsame]
      simp [sameKind]

/-- A text can be the key of a number without being tied with it, and the two zeros are tied
without sharing a key. -/
theorem keys_disagree_with_ties :
    (text "0").isProper ∧ (number .zero).isProper ∧
      (text "0").key = (number .zero).key ∧ (text "0").compare? (number .zero) ≠ some .eq ∧
    (number Number.zero.neg).isProper ∧ (number .zero).key ≠ (number Number.zero.neg).key ∧
      (number .zero).compare? (number Number.zero.neg) = some .eq := by
  decide

end Value

lemma SortKey.order_eq_eq_iff (k : SortKey) {v w : Value} (h : v.Regular w)
    (hkind : v.sameKind w) : k.order v w = .eq ↔ v.key = w.key := by
  obtain ⟨c, hc⟩ := h.exists_compare? hkind
  have hv : v ≠ .absent := by
    rintro rfl
    cases hkind
  have hw : w ≠ .absent := by
    rintro rfl
    cases v <;> cases hkind
  have htie := h.compare?_eq_some_eq_iff
  rw [hc, Option.some.injEq] at htie
  rw [order, k.compare?_of_present hv hw, hc, Option.map_some, Option.getD_some,
    Direction.apply_eq_eq_iff, htie]
  simp [hkind]

/-! ### Records that are tied -/

section

variable {α : Type} [Searchable α] {rs : List α} {r s : α}

/-- Records that a sort key does not tell apart. -/
def Tied (k : SortKey) (r s : α) : Prop := SortKey.compareRecords [k] (record r) (record s) = .eq

/-- Records whose values of a field are of one kind, present, and not the two zeros. -/
structure Alike (field : String) (r s : α) : Prop where
  kind : ((record r).field field).sameKind ((record s).field field)
  regular : ((record r).field field).Regular ((record s).field field)

lemma Alike.tied_iff {k : SortKey} (h : Alike k.field r s) :
    Tied k r s ↔ ((record r).field k.field).key = ((record s).field k.field).key := by
  rw [Tied, SortKey.compareRecords_singleton, k.order_eq_eq_iff h.regular h.kind]

/-! ### What grouping and leaving out take to be the same -/

lemma mem_groupBy_iff {fields : List String} {g : Group α} : g ∈ groupBy fields rs ↔
    ∃ q ∈ rs,
      g = ⟨groupKey fields q, rs.filter fun r => groupKey fields r == groupKey fields q⟩ := by
  simp only [groupBy, List.mem_map, List.mem_eraseDups]
  constructor
  · rintro ⟨_, ⟨q, hq, rfl⟩, rfl⟩
    exact ⟨q, hq, rfl⟩
  · rintro ⟨q, hq, rfl⟩
    exact ⟨_, ⟨q, hq, rfl⟩, rfl⟩

/-- Records of one group are those that share their keys. -/
lemma exists_mem_groupBy_iff {fields : List String} (hr : r ∈ rs) (hs : s ∈ rs) :
    (∃ g ∈ groupBy fields rs, r ∈ g.records ∧ s ∈ g.records) ↔
      groupKey fields r = groupKey fields s := by
  simp only [mem_groupBy_iff]
  constructor
  · rintro ⟨g, ⟨q, -, rfl⟩, hrg, hsg⟩
    simp only [List.mem_filter, beq_iff_eq] at hrg hsg
    exact hrg.2.trans hsg.2.symm
  · intro h
    refine ⟨_, ⟨r, hr, rfl⟩, ?_, ?_⟩
    · simp [hr]
    · simp [hs, h]

/-- A record at the end is left out if its name was seen or another record has it. -/
lemma firstOfName_concat_eq_iff {seen : List String} :
    firstOfName seen (rs ++ [s]) = firstOfName seen rs ↔
      ∃ k, nameKey s = some k ∧ (k ∈ seen ∨ ∃ r ∈ rs, nameKey r = some k) := by
  induction rs generalizing seen with
  | nil =>
    simp only [List.nil_append, firstOfName]
    cases nameKey s <;> simp
  | cons r rs ih =>
    rw [List.cons_append, firstOfName, firstOfName]
    cases hr : nameKey r with
    | none => simp [ih, hr]
    | some l =>
      dsimp only
      split_ifs with hl
      · have hseen (k : String) : l = k → k ∈ seen := fun hk => hk ▸ hl
        rw [ih]
        refine exists_congr fun k => and_congr_right fun _ => ?_
        simp only [List.exists_mem_cons_iff, hr, Option.some.injEq, ← or_assoc]
        rw [or_iff_left_of_imp (hseen k)]
      · rw [List.cons.injEq, ih]
        simp [hr, or_assoc, or_left_comm, eq_comm]

namespace Environment

/-- Values tie if they are of one kind and share a key. So the records that are grouped together,
and those of which only the first is shown, are the ones that a sort by the field leaves tied. -/
theorem ties_share_keys (env : Environment) (k : SortKey) (rs : List α) (s : α) :
    (∀ v w : Value, v.Regular w → (v.compare? w = some .eq ↔ v.sameKind w ∧ v.key = w.key)) ∧
    (env.grouping = [k.field] → s ∈ rs → ∀ r ∈ rs, Alike k.field r s →
      ((∃ g ∈ env.group rs, r ∈ g.records ∧ s ∈ g.records) ↔ Tied k r s)) ∧
    (env.unique = .cards → (∀ r ∈ s :: rs, (record r).displayName = (record r).field k.field) →
      (∀ r ∈ rs, Alike k.field r s) →
      (env.dedupe (rs ++ [s]) = env.dedupe rs ↔ ∃ r ∈ rs, Tied k r s)) := by
  refine ⟨fun v w h => h.compare?_eq_some_eq_iff, ?_, ?_⟩
  · intro hgrouping hs r hr halike
    rw [group_eq_groupBy, hgrouping, exists_mem_groupBy_iff hr hs, halike.tied_iff]
    simp [groupKey]
  · intro hunique hname halike
    obtain ⟨hs, hrs⟩ := List.forall_mem_cons.mp hname
    rw [dedupe, dedupe, hunique]
    dsimp only
    rw [firstOfName_concat_eq_iff]
    constructor
    · rintro ⟨l, hl, hseen | ⟨r, hr, hlr⟩⟩
      · cases hseen
      · rw [nameKey, hs] at hl
        rw [nameKey, hrs r hr] at hlr
        exact ⟨r, hr, (halike r hr).tied_iff.mpr (hlr.trans hl.symm)⟩
    · rintro ⟨r, hr, htied⟩
      obtain ⟨l, hl⟩ := Value.exists_key_of_isProper (halike r hr).regular.right
      refine ⟨l, ?_, .inr ⟨r, hr, ?_⟩⟩
      · rw [nameKey, hs, hl]
      · rw [nameKey, hrs r hr, (halike r hr).tied_iff.mp htied, hl]

/-- The number after `0.1` is written differently. Two spellings of a name stand in one group, and
of the two cards only the first is shown. -/
theorem ties_share_keys_two_spellings :
    ∃ (x y : Number) (lower upper : Card) (env : Environment), env.grouping = [nameField] ∧
      env.unique = .cards ∧ (Value.number x).key ≠ (Value.number y).key ∧
      (∃ g ∈ env.group [lower, upper], lower ∈ g.records ∧ upper ∈ g.records) ∧
      env.dedupe [lower, upper] = env.dedupe [lower] := by
  let x : Number := ⟨0x3FB999999999999A⟩
  let y : Number := ⟨0x3FB999999999999B⟩
  let lower : Card := ⟨[("name", .text "ant")]⟩
  let upper : Card := ⟨[("name", .text "ANT")]⟩
  let env : Environment := { grouping := [nameField], unique := .cards }
  have hregular : (Value.number x).Regular (.number y) := ⟨by decide, by decide, by decide⟩
  have halike : Alike nameField lower upper := ⟨by decide, by decide, by decide, by decide⟩
  have htied : Tied ⟨nameField, .descending⟩ lower upper := by
    rw [Tied]
    decide
  have hgroup := (ties_share_keys env ⟨nameField, .descending⟩ [lower, upper] upper).2.1 rfl
    (by simp) lower (by simp) halike
  have hdedupe := (ties_share_keys env ⟨nameField, .descending⟩ [lower] upper).2.2 rfl
    (by simp) (by simpa using halike)
  have hvalues := (ties_share_keys env ⟨nameField, .descending⟩ [lower] upper).1 _ _ hregular
  refine ⟨x, y, lower, upper, env, rfl, rfl, ?_, hgroup.mpr htied,
    hdedupe.mpr ⟨lower, by simp, htied⟩⟩
  intro hkey
  have heq := hvalues.mpr ⟨by decide, hkey⟩
  revert heq
  decide

end Environment

end

end CardSearch
