import CardSearch.Proofs.Search.Selection
import Mathlib.Data.Fintype.Order
import Mathlib.Data.List.Forall2

/-!
# Which rows a search shows

Records that look the same are still different rows, so what a search shows is stated of the rows:
where only cards are asked for, the shown rows are the first matching ones of each name and all
matching ones without a name.

Sorting comes after that choice and only permutes it. So two searches that differ in how they sort
or group show the same rows, if the sort keys can rank them.
-/

namespace CardSearch

/-! ### Other views of the records -/

section

variable {α β : Type} [Searchable α] [Searchable β] {f : α → β}

lemma firstOfName_map (hf : ∀ r, record (f r) = record r) (seen : List String) (rs : List α) :
    firstOfName seen (rs.map f) = (firstOfName seen rs).map f := by
  induction rs generalizing seen with
  | nil => rfl
  | cons r rs ih =>
    have hkey : nameKey (f r) = nameKey r := by simp [nameKey, hf]
    rw [List.map_cons, firstOfName, firstOfName, hkey]
    cases nameKey r with
    | none => simp [ih]
    | some k => by_cases hk : k ∈ seen <;> simp [hk, ih]

lemma Environment.dedupe_map (env : Environment) (hf : ∀ r, record (f r) = record r)
    (rs : List α) : env.dedupe (rs.map f) = (env.dedupe rs).map f := by
  rw [dedupe, dedupe]
  cases env.unique with
  | printings => rfl
  | cards => exact firstOfName_map hf [] rs

end

/-- What is permuted in an image is permuted in what is mapped. -/
lemma exists_perm_of_perm_map {α β : Type} {f : α → β} {l : List α} {m : List β}
    (h : m.Perm (l.map f)) : ∃ l' : List α, m = l'.map f ∧ l'.Perm l := by
  have hpairs : List.Forall₂ (fun b a => b = f a) (l.map f) l :=
    List.forall₂_map_left_iff.mpr (List.forall₂_same.mpr fun _ _ => rfl)
  obtain ⟨l', hl', hperm⟩ := List.perm_comp_forall₂ h hpairs
  refine ⟨l', ?_, hperm⟩
  rwa [← List.forall₂_map_right_iff, List.forall₂_eq_eq_eq] at hl'

/-! ### The first of each name -/

section

variable {α : Type} [Searchable α]

variable [LinearOrder α] {seen : List String} {rs : List α} {q r : α} {k : String}

/-- Where the record has a name, it was not seen before and no lesser record of the list has it. -/
def Leads (seen : List String) (rs : List α) (r : α) : Prop :=
  ∀ k, nameKey r = some k → k ∉ seen ∧ ∀ q ∈ rs, nameKey q = some k → r ≤ q

lemma leads_cons_self (hq : ∀ p ∈ rs, q < p) :
    Leads seen (q :: rs) q ↔ ∀ k, nameKey q = some k → k ∉ seen := by
  refine forall₂_congr fun k hk => ?_
  constructor
  · rintro ⟨hseen, -⟩
    exact hseen
  · intro hseen
    exact ⟨hseen, List.forall_mem_cons.mpr ⟨fun _ => le_rfl, fun p hp _ => (hq p hp).le⟩⟩

lemma leads_cons_of_nameless (hkey : nameKey q = none) :
    Leads seen (q :: rs) r ↔ Leads seen rs r := by
  simp [Leads, hkey]

/-- A name is seen once a lesser record had it. -/
lemma leads_cons_of_named (hkey : nameKey q = some k) (hqr : q < r) :
    Leads seen (q :: rs) r ↔ Leads (k :: seen) rs r := by
  refine forall₂_congr fun l hl => ?_
  have hne : (nameKey q = some l → r ≤ q) ↔ l ≠ k := by
    simp [hkey, hqr.not_ge, eq_comm]
  rw [List.forall_mem_cons, hne, List.mem_cons, not_or]
  tauto

lemma leads_of_seen (hk : k ∈ seen) : Leads (k :: seen) rs r ↔ Leads seen rs r := by
  have hseen (l : String) : l ∈ k :: seen ↔ l ∈ seen := by
    rw [List.mem_cons, or_iff_right_of_imp]
    rintro rfl
    exact hk
  simp only [Leads, hseen]

/-- What is kept of an ordered list: the records without a name, and those that are the least of
their name, if it was not seen before. -/
lemma mem_firstOfName_iff (hrs : rs.Pairwise (· < ·)) :
    r ∈ firstOfName seen rs ↔ r ∈ rs ∧ Leads seen rs r := by
  induction rs generalizing seen with
  | nil => simp [firstOfName]
  | cons q rs ih =>
    obtain ⟨hq, hrs⟩ := List.pairwise_cons.mp hrs
    have hcons : r ∈ q :: rs ∧ Leads seen (q :: rs) r ↔
        (r = q ∧ ∀ k, nameKey q = some k → k ∉ seen) ∨ (r ∈ rs ∧ Leads seen (q :: rs) r) := by
      rw [List.mem_cons, or_and_right]
      refine or_congr_left (and_congr_right ?_)
      rintro rfl
      exact leads_cons_self hq
    rw [firstOfName, hcons]
    cases hkey : nameKey q with
    | none =>
      rw [List.mem_cons, ih hrs, leads_cons_of_nameless hkey]
      simp
    | some k =>
      have hleads : r ∈ rs ∧ Leads seen (q :: rs) r ↔ r ∈ rs ∧ Leads (k :: seen) rs r :=
        and_congr_right fun hr => leads_cons_of_named hkey (hq r hr)
      dsimp only
      rw [hleads]
      split_ifs with hk
      · rw [ih hrs, leads_of_seen hk]
        simp [hk]
      · rw [List.mem_cons, ih hrs]
        simp [hk]

end

/-! ### The rows that are shown -/

variable {α : Type} [Searchable α]

/-- Rows that show one matching record for each name, the first one, and every matching record
without a name. -/
structure OnePerName (t : Term) (rs : List α) (rows : List (Row rs)) : Prop where
  matching : ∀ i ∈ rows, t.holds (record i) = .ok true
  names : (rows.filterMap nameKey).Nodup
  first : ∀ i ∈ rows, ∀ k, nameKey i = some k →
    ∀ j : Row rs, t.holds (record j) = .ok true → nameKey j = some k → i ≤ j
  named : ∀ j : Row rs, t.holds (record j) = .ok true → ∀ k, nameKey j = some k →
    ∃ i ∈ rows, nameKey i = some k
  nameless : ∀ j : Row rs, t.holds (record j) = .ok true → nameKey j = none → rows.count j = 1

namespace Environment

variable {env : Environment} {t : Term} {rs : List α} {rows : List (Row rs)}

instance : WellFoundedLT (Row rs) := inferInstanceAs (WellFoundedLT (Fin rs.length))

/-- The rows that a search shows, in their order. -/
def shownRows (env : Environment) (t : Term) (rs : List α) : List (Row rs) :=
  env.dedupe ((Row.all rs).filter fun i => t.accepts (record i))

/-- A search shows these rows in some order, however it sorts. -/
lemma exists_rows_of_search {found : List α} (h : env.search t rs = some (.ok found)) :
    ∃ rows : List (Row rs), found = rows.map Row.get ∧ rows.Perm (env.shownRows t rs) := by
  obtain ⟨selected, hselect, hsort⟩ := search_eq_ok_iff.mp h
  obtain ⟨-, rfl⟩ := Term.select_eq_ok_iff.mp hselect
  apply exists_perm_of_perm_map
  have hrows : rs.filter (fun r => t.accepts (record r)) =
      ((Row.all rs).filter fun i => t.accepts (record i)).map Row.get := by
    conv_lhs => rw [← Row.map_get_all rs, List.filter_map]
    rfl
  rw [shownRows, ← env.dedupe_map (f := Row.get) fun _ => rfl, ← hrows]
  exact perm_of_sort hsort

lemma nodup_shownRows : (env.shownRows t rs).Nodup := by
  have hall : (Row.all rs).Nodup := (Row.pairwise_all rs).imp ne_of_lt
  exact (env.dedupe_sublist _).nodup (hall.filter _)

lemma mem_shownRows_iff (hu : env.unique = .cards) (i : Row rs) :
    i ∈ env.shownRows t rs ↔ t.holds (record i) = .ok true ∧ ∀ k, nameKey i = some k →
      ∀ j : Row rs, t.holds (record j) = .ok true → nameKey j = some k → i ≤ j := by
  have hordered := (Row.pairwise_all rs).filter fun j => t.accepts (record j)
  rw [shownRows, dedupe, hu, mem_firstOfName_iff hordered]
  simp [Leads, Term.accepts_iff]

lemma onePerName_of_perm (hu : env.unique = .cards) (hperm : rows.Perm (env.shownRows t rs)) :
    OnePerName t rs rows := by
  have hmem (i : Row rs) := hperm.mem_iff.trans (mem_shownRows_iff hu i)
  have hnodup : rows.Nodup := hperm.nodup_iff.mpr nodup_shownRows
  refine ⟨fun i hi => ((hmem i).mp hi).1, ?_, fun i hi => ((hmem i).mp hi).2, ?_, ?_⟩
  · apply List.pairwise_filterMap.mpr
    apply hnodup.imp_of_mem
    intro i j hi hj hne k hik l hjl
    rintro rfl
    have hij := ((hmem i).mp hi).2 k hik j ((hmem j).mp hj).1 hjl
    have hji := ((hmem j).mp hj).2 k hjl i ((hmem i).mp hi).1 hik
    exact hne (le_antisymm hij hji)
  · intro j hj k hk
    obtain ⟨i, ⟨hi, hik⟩, hleast⟩ := wellFounded_lt.has_min
      {i : Row rs | t.holds (record i) = .ok true ∧ nameKey i = some k} ⟨j, hj, hk⟩
    refine ⟨i, (hmem i).mpr ⟨hi, fun l hil p hp hpl => ?_⟩, hik⟩
    obtain rfl : k = l := Option.some.inj (hik.symm.trans hil)
    exact not_lt.mp (hleast p ⟨hp, hpl⟩)
  · intro j hj hk
    apply List.count_eq_one_of_mem hnodup
    exact (hmem j).mpr ⟨hj, by simp [hk]⟩

/-- Where only cards are asked for, a search shows one row for each name. Of two searches whose sort
keys can rank the matching records, how they sort and group decides the order of the rows, and
nothing else. -/
theorem search_shows_same_rows (t : Term) (rs : List α) :
    (∀ (env : Environment) (found : List α), env.unique = .cards →
      env.search t rs = some (.ok found) →
        ∃ rows : List (Row rs), found = rows.map Row.get ∧ OnePerName t rs rows) ∧
    ∀ env env' : Environment, env.unique = env'.unique →
      (∀ k ∈ env.sorting ++ env'.sorting,
        RankableIn (rs.filter fun r => t.accepts (record r)) k.field) →
      (∃ e, env.search t rs = some (.error e) ∧ env'.search t rs = some (.error e)) ∨
      ∃ rows rows' : List (Row rs), rows.Perm rows' ∧
        env.search t rs = some (.ok (rows.map Row.get)) ∧
        env'.search t rs = some (.ok (rows'.map Row.get)) := by
  constructor
  · intro env found hu h
    obtain ⟨rows, rfl, hperm⟩ := exists_rows_of_search h
    exact ⟨rows, rfl, onePerName_of_perm hu hperm⟩
  · intro env env' hu hrankable
    obtain ⟨henv, henv'⟩ := List.forall_mem_append.mp hrankable
    cases hselect : t.select rs with
    | error e =>
      exact .inl ⟨e, search_eq_error_iff.mpr hselect, search_eq_error_iff.mpr hselect⟩
    | ok selected =>
      right
      obtain ⟨-, rfl⟩ := Term.select_eq_ok_iff.mp hselect
      obtain ⟨found, hfound⟩ := exists_search_eq_ok hselect henv
      obtain ⟨found', hfound'⟩ := exists_search_eq_ok hselect henv'
      obtain ⟨rows, rfl, hperm⟩ := exists_rows_of_search hfound
      obtain ⟨rows', rfl, hperm'⟩ := exists_rows_of_search hfound'
      have hshown : env.shownRows t rs = env'.shownRows t rs := by
        rw [shownRows, shownRows, dedupe, dedupe, hu]
      refine ⟨rows, rows', ?_, hfound, hfound'⟩
      rw [hshown] at hperm
      exact hperm.trans hperm'.symm

/-- Of two printings the first is shown, in either direction of the sort, and so is a card without
a name. -/
theorem search_shows_same_rows_two_printings :
    ∃ (core promo nameless : Card) (down up : Environment),
      down.sorting = [⟨"set", .descending⟩] ∧ up.sorting = [⟨"set", .ascending⟩] ∧
      down.unique = .cards ∧ down.unique = up.unique ∧
      down.search (.group []) [promo, nameless, core] = some (.ok [promo, nameless]) ∧
      (∃ rows : List (Row [promo, nameless, core]), [promo, nameless] = rows.map Row.get ∧
        OnePerName (.group []) [promo, nameless, core] rows) ∧
      (∀ k ∈ down.sorting ++ up.sorting, RankableIn ([promo, nameless, core].filter fun r =>
        Term.accepts (.group []) (record r)) k.field) ∧
      ((∃ e, down.search (.group []) [promo, nameless, core] = some (.error e) ∧
          up.search (.group []) [promo, nameless, core] = some (.error e)) ∨
        ∃ rows rows' : List (Row [promo, nameless, core]), rows.Perm rows' ∧
          down.search (.group []) [promo, nameless, core] = some (.ok (rows.map Row.get)) ∧
          up.search (.group []) [promo, nameless, core] = some (.ok (rows'.map Row.get))) := by
  let core : Card := ⟨[("name", .text "Ant"), ("set", .text "Core")]⟩
  let promo : Card := ⟨[("name", .text "ant"), ("set", .text "Promo")]⟩
  let nameless : Card := ⟨[("set", .text "Core")]⟩
  let down : Environment := { sorting := [⟨"set", .descending⟩], unique := .cards }
  let up : Environment := { sorting := [⟨"set", .ascending⟩], unique := .cards }
  have hdown : down.search (.group []) [promo, nameless, core] = some (.ok [promo, nameless]) := by
    rfl
  have hrankable : ∀ k ∈ down.sorting ++ up.sorting,
      RankableIn ([promo, nameless, core].filter fun r =>
        Term.accepts (.group []) (record r)) k.field := by
    have htexts : ∀ r ∈ [promo, nameless, core], ∀ x, (record r).field "set" ≠ .number x := by
      simp [promo, nameless, core, Card.field, Json.Members.get?, Json.fieldValue, List.lookup_cons]
    have hset : RankableIn ([promo, nameless, core].filter fun r =>
        Term.accepts (.group []) (record r)) "set" :=
      (rankableIn_of_no_number htexts).of_subset List.filter_sublist.subset
    simpa [down, up] using hset
  have h := search_shows_same_rows (.group []) [promo, nameless, core]
  exact ⟨core, promo, nameless, down, up, rfl, rfl, rfl, rfl, hdown, h.1 down _ rfl hdown,
    hrankable, h.2 down up rfl hrankable⟩

end Environment

end CardSearch
