import CardSearch.Card
import CardSearch.Proofs.Query.Shape
import CardSearch.Proofs.Sorting.Arrangement

/-!
# Selecting records

Selecting goes through the records in their order and stops at the first that fails. So it has a
result exactly where no record fails, namely the records that match, and an error is that of the
first record that fails. What fails in a record is always a filter term of the query, because its
name resolves to nothing or its operator is not one of the seven.

A search that selects without failing has a result if what it selects can be ranked by its sort
keys. If texts and numbers stand in the field of a key, it may have none.
-/

namespace CardSearch

namespace Term

/-! ### Failing terms -/

/-- A term stands somewhere in a term. -/
inductive Within (u : Term) : Term → Prop where
  | self : Within u u
  | neg {t : Term} (h : Within u t) : Within u (.neg t)
  | left {l r : Term} (h : Within u l) : Within u (.or l r)
  | right {l r : Term} (h : Within u r) : Within u (.or l r)
  | part {t : Term} {ts : List Term} (ht : t ∈ ts) (h : Within u t) : Within u (.group ts)

variable {r : Record} {e : SearchError}

lemma filterHolds_eq_error_iff {a op word : String} {resolved : Option Filter} :
    filterHolds r a resolved op word = .error e ↔
      (resolved = none ∧ e = .unknownFilter a) ∨
      (resolved ≠ none ∧ (∀ o, Operator.token o ≠ op) ∧ e = .unsupportedOperator op) := by
  cases resolved with
  | none => simp [filterHolds, eq_comm]
  | some f =>
    cases ho : Operator.ofToken? op with
    | none =>
      have hop : ∀ o, Operator.token o ≠ op := by
        intro o hoop
        rw [← hoop, Operator.ofToken?_token] at ho
        cases ho
      simp [filterHolds, ho, hop, eq_comm]
    | some o =>
      have hop : o.token = op := by simpa using List.find?_some ho
      constructor
      · simp [filterHolds, ho]
      · rintro (⟨hnone, -⟩ | ⟨-, hno, -⟩)
        · cases hnone
        · exact absurd hop (hno o)

lemma exists_holds_eq_error_of_holdsAll {ts : List Term} (h : holdsAll r ts = .error e) :
    ∃ t ∈ ts, t.holds r = .error e := by
  induction ts with
  | nil => simp [holdsAll] at h
  | cons t ts ih =>
    rw [holdsAll] at h
    split at h
    · obtain ⟨u, hu, he⟩ := ih h
      exact ⟨u, List.mem_cons_of_mem t hu, he⟩
    · exact ⟨t, List.mem_cons_self, h⟩

/-- Where a term fails, a filter term in it fails in the same way. -/
lemma exists_filter_of_holds_eq_error (t : Term) (h : t.holds r = .error e) :
    ∃ a resolved op word, Within (.filter a resolved op word) t ∧
      filterHolds r a resolved op word = .error e := by
  match t with
  | .name word => simp [holds] at h
  | .neg t =>
    have ht : t.holds r = .error e := by
      rw [holds] at h
      cases hr : t.holds r with
      | error e' => simpa [hr, Except.map] using h
      | ok b => simp [hr, Except.map] at h
    obtain ⟨a, f, op, word, hw, hf⟩ := exists_filter_of_holds_eq_error t ht
    exact ⟨a, f, op, word, .neg hw, hf⟩
  | .filter a f op word =>
    rw [holds] at h
    exact ⟨a, f, op, word, .self, h⟩
  | .or l m =>
    rw [holds] at h
    split at h
    · obtain ⟨a, f, op, word, hw, hf⟩ := exists_filter_of_holds_eq_error m h
      exact ⟨a, f, op, word, .right hw, hf⟩
    · obtain ⟨a, f, op, word, hw, hf⟩ := exists_filter_of_holds_eq_error l h
      exact ⟨a, f, op, word, .left hw, hf⟩
  | .group ts =>
    rw [holds] at h
    obtain ⟨u, hu, he⟩ := exists_holds_eq_error_of_holdsAll h
    obtain ⟨a, f, op, word, hw, hf⟩ := exists_filter_of_holds_eq_error u he
    exact ⟨a, f, op, word, .part hu hw, hf⟩

/-! ### Selecting -/

/-- Whether a record matches. A record that fails does not. -/
def accepts (t : Term) (r : Record) : Bool :=
  match t.holds r with
  | .ok b    => b
  | .error _ => false

lemma accepts_iff {t : Term} : t.accepts r = true ↔ t.holds r = .ok true := by
  rw [accepts]
  cases t.holds r <;> simp

section

variable {α : Type} [Searchable α] {t : Term} {rs found : List α}

/-- Either a term has an answer for every record, or there is a first record that fails. -/
lemma answers_or_first_failure (t : Term) (rs : List α) :
    (∀ q ∈ rs, ∃ b, t.holds (record q) = .ok b) ∨
      ∃ before q after e, rs = before ++ q :: after ∧ t.holds (record q) = .error e ∧
        ∀ p ∈ before, ∃ b, t.holds (record p) = .ok b := by
  induction rs with
  | nil => simp
  | cons q rs ih =>
    cases hq : t.holds (record q) with
    | error e =>
      right
      exact ⟨[], q, rs, e, rfl, hq, by simp⟩
    | ok b =>
      rcases ih with hall | ⟨before, p, after, e, rfl, hp, hbefore⟩
      · left
        exact List.forall_mem_cons.mpr ⟨⟨b, hq⟩, hall⟩
      · right
        exact ⟨q :: before, p, after, e, rfl, hp, List.forall_mem_cons.mpr ⟨⟨b, hq⟩, hbefore⟩⟩

lemma select_eq_ok (h : ∀ q ∈ rs, ∃ b, t.holds (record q) = .ok b) :
    t.select rs = .ok (rs.filter fun q => t.accepts (record q)) := by
  induction rs with
  | nil => rfl
  | cons q rs ih =>
    obtain ⟨⟨b, hq⟩, hrs⟩ := List.forall_mem_cons.mp h
    cases b <;> simp [select, hq, ih hrs, accepts, Except.map]

lemma select_eq_error {before after : List α} {q : α} (hq : t.holds (record q) = .error e)
    (h : ∀ p ∈ before, ∃ b, t.holds (record p) = .ok b) :
    t.select (before ++ q :: after) = .error e := by
  induction before with
  | nil => simp [select, hq]
  | cons p before ih =>
    obtain ⟨⟨b, hp⟩, hbefore⟩ := List.forall_mem_cons.mp h
    cases b <;> simp [select, hp, ih hbefore, Except.map]

lemma select_eq_ok_iff :
    t.select rs = .ok found ↔
      (∀ q ∈ rs, ∃ b, t.holds (record q) = .ok b) ∧
        found = rs.filter fun q => t.accepts (record q) := by
  constructor
  · intro h
    rcases t.answers_or_first_failure rs with hall | ⟨before, q, after, e, rfl, hq, hbefore⟩
    · rw [select_eq_ok hall, Except.ok.injEq] at h
      exact ⟨hall, h.symm⟩
    · rw [select_eq_error hq hbefore] at h
      cases h
  · rintro ⟨hall, rfl⟩
    exact select_eq_ok hall

lemma select_eq_error_iff :
    t.select rs = .error e ↔
      ∃ before q after, rs = before ++ q :: after ∧ t.holds (record q) = .error e ∧
        ∀ p ∈ before, ∃ b, t.holds (record p) = .ok b := by
  constructor
  · intro h
    rcases t.answers_or_first_failure rs with hall | ⟨before, q, after, e', rfl, hq, hbefore⟩
    · rw [select_eq_ok hall] at h
      cases h
    · rw [select_eq_error hq hbefore, Except.error.injEq] at h
      exact ⟨before, q, after, rfl, h ▸ hq, hbefore⟩
  · rintro ⟨before, q, after, rfl, hq, hbefore⟩
    exact select_eq_error hq hbefore

end

end Term

lemma firstOfName_sublist {α : Type} [Searchable α] (seen : List String) (rs : List α) :
    (firstOfName seen rs).Sublist rs := by
  induction rs generalizing seen with
  | nil => exact List.Sublist.refl []
  | cons r rs ih =>
    rw [firstOfName]
    cases nameKey r with
    | none => exact (ih seen).cons_cons r
    | some k =>
      dsimp only
      split_ifs
      · exact (ih seen).cons r
      · exact (ih (k :: seen)).cons_cons r

namespace Environment

variable {α : Type} [Searchable α] {env : Environment} {t : Term} {rs found : List α}
  {e : SearchError}

lemma search_eq_error_iff : env.search t rs = some (.error e) ↔ t.select rs = .error e := by
  rw [search]
  cases t.select rs <;> simp

lemma search_eq_ok_iff :
    env.search t rs = some (.ok found) ↔
      ∃ selected, t.select rs = .ok selected ∧ env.sort (env.dedupe selected) = some found := by
  rw [search]
  cases t.select rs <;> simp

lemma dedupe_sublist (env : Environment) (rs : List α) : (env.dedupe rs).Sublist rs := by
  rw [dedupe]
  cases env.unique with
  | printings => exact List.Sublist.refl rs
  | cards => exact firstOfName_sublist [] rs

/-- Where what is selected can be ranked, a search has a result. -/
lemma exists_search_eq_ok (hselect : t.select rs = .ok found)
    (h : ∀ k ∈ env.sorting, RankableIn found k.field) :
    ∃ shown, env.search t rs = some (.ok shown) := by
  obtain ⟨rows, hsort, -⟩ := exists_arranged env (env.dedupe found) fun k hk =>
    (h k hk).of_subset (env.dedupe_sublist found).subset
  exact ⟨_, search_eq_ok_iff.mpr ⟨found, hselect, hsort⟩⟩

end Environment

/-! ### Failing searches -/

namespace Query

open Term (Within)

/-- A filter term of a query is the cause of an error: its name resolves to nothing, or its operator
is none of the seven. -/
inductive Explained (registry : Registry) (t : Term) : SearchError → Prop where
  | unknown {a op word : String} (h : Within (.filter a none op word) t)
      (ha : registry.lookup a = none) : Explained registry t (.unknownFilter a)
  | unsupported {a op word : String} {f : Filter} (h : Within (.filter a (some f) op word) t)
      (ha : registry.lookup a = some f) (hop : ∀ o, Operator.token o ≠ op) :
      Explained registry t (.unsupportedOperator op)

variable {registry : Registry} {r : Record} {e : SearchError}

lemma Part.of_within {t u : Term} (ht : Part registry t) (h : Within u t) : Part registry u := by
  induction h with
  | self => exact ht
  | neg h ih => exact ih (.operand (.leaf (part_neg_iff.mp ht)))
  | left h ih => exact ih (part_or_iff.mp ht).1
  | right h ih => exact ih (.operand (part_or_iff.mp ht).2)
  | part hm h ih => exact ih (part_group_iff.mp ht _ hm)

lemma WellShaped.part {t : Term} (h : WellShaped registry t) : Part registry t := by
  cases h with
  | root h => exact .group h

lemma eq_lookup_of_within_parse {query a op word : String} {resolved : Option Filter}
    (h : Within (.filter a resolved op word) (parse registry query)) :
    resolved = registry.lookup a := by
  have hpart := (wellShaped_parse registry query).part.of_within h
  cases hpart with
  | operand ho =>
    cases ho with
    | leaf hl => cases hl; rfl

lemma explained_of_holds_eq_error {query : String}
    (h : (parse registry query).holds r = .error e) :
    Explained registry (parse registry query) e := by
  obtain ⟨a, resolved, op, word, hw, hf⟩ := Term.exists_filter_of_holds_eq_error _ h
  have ha := eq_lookup_of_within_parse hw
  rcases Term.filterHolds_eq_error_iff.mp hf with ⟨rfl, rfl⟩ | ⟨hne, hop, rfl⟩
  · exact .unknown hw ha.symm
  · obtain ⟨f, rfl⟩ := Option.ne_none_iff_exists'.mp hne
    exact .unsupported hw ha.symm hop

/-- Every filter term of a tree resolves and has one of the seven operators. -/
def Known (t : Term) : Prop :=
  ∀ a resolved op word, Within (.filter a resolved op word) t →
    resolved ≠ none ∧ ∃ o, Operator.token o = op

lemma Known.not_explained {t : Term} (h : Known t) (registry : Registry) (e : SearchError) :
    ¬ Explained registry t e := by
  intro hexplained
  cases hexplained with
  | unknown hw ha => exact (h _ _ _ _ hw).1 rfl
  | unsupported hw ha hop =>
    obtain ⟨-, o, ho⟩ := h _ _ _ _ hw
    exact hop o ho

/-- A search for a query fails only with a filter term of the query, in the first record that it
fails in. Where every filter term resolves and has one of the seven operators it does not fail, and
it has a result if the matching records can be ranked by the sort keys. -/
theorem search_error_explained {α : Type} [Searchable α] (registry : Registry) (query : String)
    (env : Environment) (rs : List α) :
    (Known (parse registry query) →
      (∀ k ∈ env.sorting, RankableIn
        (rs.filter fun r => (parse registry query).accepts (record r)) k.field) →
      ∃ found, env.search (parse registry query) rs = some (.ok found)) ∧
    ∀ e, env.search (parse registry query) rs = some (.error e) →
      (∀ fault, e ≠ .badSyntax fault) ∧ Explained registry (parse registry query) e ∧
      ∃ before r after, rs = before ++ r :: after ∧
        (parse registry query).holds (record r) = .error e ∧
        ∀ q ∈ before, ∃ b, (parse registry query).holds (record q) = .ok b := by
  constructor
  · intro hknown hrankable
    cases hs : (parse registry query).select rs with
    | error e =>
      obtain ⟨before, r, after, -, hr, -⟩ := Term.select_eq_error_iff.mp hs
      exact absurd (explained_of_holds_eq_error hr) (hknown.not_explained registry e)
    | ok found =>
      obtain ⟨-, rfl⟩ := Term.select_eq_ok_iff.mp hs
      exact Environment.exists_search_eq_ok hs hrankable
  · intro e hs
    rw [Environment.search_eq_error_iff, Term.select_eq_error_iff] at hs
    obtain ⟨before, r, after, hrs, hr, hbefore⟩ := hs
    have hexplained := explained_of_holds_eq_error hr
    refine ⟨?_, hexplained, before, r, after, hrs, hr, hbefore⟩
    rintro fault rfl
    cases hexplained

/-- An unknown name is met only in a card that gets past the word before it, and a query whose
names and operators are known has a result. -/
theorem search_error_explained_second_card :
    ∃ (ant dragon : Card) (env : Environment) (q₁ q₂ : String),
      env.sorting = [⟨"rarity", .ascending⟩] ∧
      env.search (parse Registry.builtin q₁) [ant, dragon] =
        some (.error (.unknownFilter "power")) ∧
      Explained Registry.builtin (parse Registry.builtin q₁) (.unknownFilter "power") ∧
      (∃ before r after, [ant, dragon] = before ++ r :: after ∧
        (parse Registry.builtin q₁).holds (record r) = .error (.unknownFilter "power") ∧
        ∀ q ∈ before, ∃ b, (parse Registry.builtin q₁).holds (record q) = .ok b) ∧
      Known (parse Registry.builtin q₂) ∧
      (∀ k ∈ env.sorting, RankableIn ([ant, dragon].filter fun r =>
        (parse Registry.builtin q₂).accepts (record r)) k.field) ∧
      ∃ found, env.search (parse Registry.builtin q₂) [ant, dragon] = some (.ok found) := by
  let ant : Card := ⟨[("name", .text "Ant")]⟩
  let dragon : Card := ⟨[("name", .text "Red Dragon"), ("rarity", .text "rare")]⟩
  let env : Environment := { sorting := [⟨"rarity", .ascending⟩] }
  have herror : env.search (parse Registry.builtin "dragon power>3") [ant, dragon] =
      some (.error (.unknownFilter "power")) := by rfl
  obtain ⟨-, hexplained, hfirst⟩ :=
    (search_error_explained Registry.builtin "dragon power>3" env [ant, dragon]).2 _ herror
  have hknown : Known (parse Registry.builtin "dragon | r!=rare") := by
    have htree : parse Registry.builtin "dragon | r!=rare" =
        .group [.or (.name "dragon") (.filter "r" (Registry.builtin.lookup "r") "!=" "rare")] := rfl
    intro a resolved op word h
    rw [htree] at h
    cases h with
    | part ht h =>
      obtain rfl := List.mem_singleton.mp ht
      cases h with
      | left h => cases h
      | right h =>
        cases h
        exact ⟨Option.some_ne_none _, .ne, rfl⟩
  have hrankable : ∀ k ∈ env.sorting, RankableIn ([ant, dragon].filter fun r =>
      (parse Registry.builtin "dragon | r!=rare").accepts (record r)) k.field := by
    intro k hk
    obtain rfl := List.mem_singleton.mp hk
    have htexts : ∀ r ∈ [ant, dragon], ∀ x, (record r).field "rarity" ≠ .number x := by
      simp [ant, dragon, Card.field, Json.Members.get?, Json.fieldValue, List.lookup_cons]
    exact (rankableIn_of_no_number htexts).of_subset List.filter_sublist.subset
  exact ⟨ant, dragon, env, _, _, rfl, herror, hexplained, hfirst, hknown, hrankable,
    (search_error_explained Registry.builtin "dragon | r!=rare" env [ant, dragon]).1
      hknown hrankable⟩

/-- The powers of 21 cards are numbers but for one. To sort them by power comes to nothing, though
the query has no filter term that could fail. -/
theorem exists_search_eq_none :
    ∃ (cards : List Card) (env : Environment) (query : String),
      Known (parse Registry.builtin query) ∧
        env.search (parse Registry.builtin query) cards = none := by
  let numbers (powers : List Int) : List Card :=
    powers.map fun n => ⟨[("power", .number (.integer n))]⟩
  let cards : List Card := numbers [2, 1, 3, 3, 3, 3, 3, 3, 3] ++ [⟨[("power", .text "x")]⟩] ++
    numbers [3, 3, 2, 2, 2, 2, 2, 2, 3, 3, 3]
  have hknown : Known (parse Registry.builtin "") := by
    have htree : parse Registry.builtin "" = .group [] := rfl
    intro a resolved op word h
    rw [htree] at h
    cases h with
    | part ht h => cases ht
  have hnone : (Environment.search { sorting := [⟨"power", .ascending⟩] }
      (parse Registry.builtin "") cards).isNone = true := by decide +kernel
  exact ⟨cards, _, "", hknown, Option.isNone_iff_eq_none.mp hnone⟩

end Query

end CardSearch
