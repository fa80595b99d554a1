import CardSearch.Registry
import Mathlib.Data.List.Induction
import Mathlib.Tactic.Common

/-!
# Histories of registrations

The filters of a registry, in their order, are the history of its registrations. What its table
answers is read off that history: an alias belongs to the last filter that has it, and a filter is
listed if one of its aliases has not gone to a later one.

A table entry names its filter by a number that is given out before the filter is stored, so the
numbers in the table have to be shown to stay below the number of filters.
-/

namespace CardSearch

namespace Registry

variable {r : Registry} {f : Filter} {a : String} {i : Nat}

/-! ### One registration -/

lemma claim_cons (filters : List Filter) (index : Nat) (owners : Owners) (a : String)
    (rest : List String) :
    (claim filters index owners (a :: rest)).1 =
      (claim filters index ((a, index) :: owners) rest).1 := by
  rw [claim]
  dsimp only
  split <;> rfl

lemma lookup_claim (filters : List Filter) (index : Nat) (owners : Owners) (a : String)
    (aliases : List String) :
    (claim filters index owners aliases).1.lookup a =
      if a ∈ aliases then some index else owners.lookup a := by
  induction aliases generalizing owners with
  | nil => rfl
  | cons b rest ih =>
    rw [claim_cons, ih]
    by_cases hab : a = b
    · simp [hab]
    · simp [hab, List.lookup_cons, beq_false_of_ne hab]

lemma mem_claim {filters : List Filter} {index : Nat} {owners : Owners} {aliases : List String}
    {p : String × Nat} (hp : p ∈ (claim filters index owners aliases).1) :
    p.2 = index ∨ p ∈ owners := by
  induction aliases generalizing owners with
  | nil => exact .inr hp
  | cons b rest ih =>
    rw [claim_cons] at hp
    rcases ih hp with hp | hp
    · exact .inl hp
    · rcases List.mem_cons.mp hp with rfl | hp
      · exact .inl rfl
      · exact .inr hp

@[simp] lemma filters_register (r : Registry) (f : Filter) :
    (r.register f).filters = r.filters ++ [f] := rfl

lemma lookup_owners_register (r : Registry) (f : Filter) (a : String) :
    (r.register f).owners.lookup a =
      if a ∈ f.aliases then some r.filters.length else r.owners.lookup a :=
  lookup_claim r.filters r.filters.length r.owners a f.aliases

/-- Every entry of the table names a filter. -/
def InRange (r : Registry) : Prop := ∀ p ∈ r.owners, p.2 < r.filters.length

namespace InRange

lemma register (h : r.InRange) (f : Filter) : (r.register f).InRange := by
  intro p hp
  rw [filters_register, List.length_append, List.length_singleton]
  rcases mem_claim hp with hp | hp
  · rw [hp]
    exact Nat.lt_succ_self r.filters.length
  · exact Nat.lt_succ_of_lt (h p hp)

lemma lt_length (h : r.InRange) (hi : r.owners.lookup a = some i) : i < r.filters.length := by
  obtain ⟨before, after, howners, -⟩ := List.lookup_eq_some_iff.mp hi
  exact h (a, i) (by simp [howners])

lemma lookup_eq_some (h : r.InRange) (hi : r.owners.lookup a = some i) :
    ∃ f, r.filters[i]? = some f ∧ r.lookup a = some f := by
  have hf := List.getElem?_eq_getElem (h.lt_length hi)
  exact ⟨_, hf, by rw [lookup, hi, Option.bind_some, hf]⟩

lemma lookup_register (h : r.InRange) (f : Filter) (a : String) :
    (r.register f).lookup a = if a ∈ f.aliases then some f else r.lookup a := by
  rw [lookup, lookup_owners_register, filters_register]
  split_ifs with ha
  · simp
  · rw [lookup]
    cases hi : r.owners.lookup a with
    | none => rfl
    | some i => simp [List.getElem?_append_left (h.lt_length hi)]

lemma isEmpty_iff (h : r.InRange) : r.isEmpty = true ↔ ∀ a, r.lookup a = none := by
  rw [isEmpty, List.isEmpty_iff]
  constructor
  · intro howners a
    rw [lookup, howners]
    rfl
  · intro hall
    cases howners : r.owners with
    | nil => rfl
    | cons p owners =>
      have hp : r.owners.lookup p.1 = some p.2 := by
        rw [howners]
        exact List.lookup_cons_self
      obtain ⟨f, -, hf⟩ := h.lookup_eq_some hp
      rw [hall] at hf
      cases hf

end InRange

/-! ### Histories -/

/-- The filter at a place of a history has an alias, and no later one has it. -/
def OwnsAt (history : List Filter) (a : String) (i : Nat) : Prop :=
  ∃ f, history[i]? = some f ∧ a ∈ f.aliases ∧ ∀ g ∈ history.drop (i + 1), a ∉ g.aliases

/-- The filters of a history that have an alias which no later one has. -/
def unshadowed : List Filter → List Filter
  | []         => []
  | f :: later =>
    if ∃ a ∈ f.aliases, ∀ g ∈ later, a ∉ g.aliases then f :: unshadowed later
    else unshadowed later

lemma ownsAt_append_singleton {history : List Filter} :
    OwnsAt (history ++ [f]) a i ↔
      if a ∈ f.aliases then i = history.length else OwnsAt history a i := by
  rcases Nat.lt_trichotomy i history.length with hlt | rfl | hgt
  · have hdrop : (history ++ [f]).drop (i + 1) = history.drop (i + 1) ++ [f] :=
      List.drop_append_of_le_length hlt
    rw [OwnsAt, OwnsAt, List.getElem?_append_left hlt, hdrop]
    split_ifs with ha
    · simp [Nat.ne_of_lt hlt, ha, or_imp, forall_and]
    · simp [ha, or_imp, forall_and]
  · split_ifs with ha <;> simp [OwnsAt, ha]
  · have hnone : history[i]? = none := List.getElem?_eq_none (Nat.le_of_lt hgt)
    have hnone' : (history ++ [f])[i]? = none := by
      rw [List.getElem?_eq_none_iff, List.length_append]
      exact hgt
    simp [OwnsAt, hnone, hnone', Nat.ne_of_gt hgt]

/-- A table that says of each alias which filter of the history was the last to have it. -/
structure Records (r : Registry) (history : List Filter) : Prop where
  filters : r.filters = history
  inRange : r.InRange
  owner : ∀ a i, r.owners.lookup a = some i ↔ OwnsAt history a i
  lookup : ∀ a, r.lookup a = history.reverse.find? fun f => a ∈ f.aliases

lemma records_empty : empty.Records [] where
  filters := rfl
  inRange := by simp [InRange, empty]
  owner := by simp [empty, OwnsAt]
  lookup _ := rfl

lemma Records.register {history : List Filter} (h : r.Records history) (f : Filter) :
    (r.register f).Records (history ++ [f]) where
  filters := by rw [filters_register, h.filters]
  inRange := h.inRange.register f
  owner a i := by
    rw [lookup_owners_register, ownsAt_append_singleton, h.filters]
    split_ifs
    · rw [Option.some.injEq, eq_comm]
    · exact h.owner a i
  lookup a := by
    rw [h.inRange.lookup_register, h.lookup, List.reverse_append]
    by_cases ha : a ∈ f.aliases <;> simp [ha]

lemma Records.registerAll {history : List Filter} (h : r.Records history) (fs : List Filter) :
    (r.registerAll fs).Records (history ++ fs) := by
  induction fs generalizing r history with
  | nil =>
    rw [List.append_nil]
    exact h
  | cons f fs ih =>
    rw [← List.singleton_append, ← List.append_assoc]
    exact ih (h.register f)

namespace Records

variable {history : List Filter} (h : r.Records history)
include h

lemma owns_iff {earlier later : List Filter} (hhistory : history = earlier ++ f :: later) :
    (f.aliases.any fun a => r.owners.lookup a == some earlier.length) = true ↔
      ∃ a ∈ f.aliases, ∀ g ∈ later, a ∉ g.aliases := by
  simp [List.any_eq_true, h.owner, OwnsAt, hhistory]

lemma listed_from {earlier later : List Filter} (hhistory : history = earlier ++ later) :
    ((later.zipIdx earlier.length).filter fun (f, i) =>
      f.aliases.any fun a => r.owners.lookup a == some i).map Prod.fst = unshadowed later := by
  induction later generalizing earlier with
  | nil => rfl
  | cons f later ih =>
    have hhistory' : history = (earlier ++ [f]) ++ later := by simp [hhistory]
    have hrest := ih hhistory'
    rw [List.length_append, List.length_singleton] at hrest
    rw [List.zipIdx_cons, List.filter_cons, unshadowed]
    simp only [h.owns_iff hhistory]
    split_ifs
    · rw [List.map_cons, hrest]
    · exact hrest

lemma listed_eq : r.listed = unshadowed history := by
  rw [listed, h.filters]
  exact h.listed_from (List.nil_append history).symm

end Records

/-! ### What a registry answers -/

lemma mem_listed_iff :
    f ∈ r.listed ↔
      ∃ i, r.filters[i]? = some f ∧ ∃ a ∈ f.aliases, r.owners.lookup a = some i := by
  simp [listed, List.mem_zipIdx_iff_getElem?]

lemma Records.listed_eq_nil_iff {history : List Filter} (h : r.Records history) :
    r.listed = [] ↔ ∀ a, r.lookup a = none := by
  constructor
  · intro hnil a
    cases hi : r.owners.lookup a with
    | none => rw [Registry.lookup, hi, Option.bind_none]
    | some i =>
      obtain ⟨f, hf, ha, -⟩ := (h.owner a i).mp hi
      rw [← h.filters] at hf
      have hmem : f ∈ r.listed := mem_listed_iff.mpr ⟨i, hf, a, ha, hi⟩
      simp [hnil] at hmem
  · intro hall
    rw [List.eq_nil_iff_forall_not_mem]
    intro f hf
    obtain ⟨i, -, a, -, hi⟩ := mem_listed_iff.mp hf
    obtain ⟨g, -, hg⟩ := h.inRange.lookup_eq_some hi
    rw [hall] at hg
    cases hg

/-- What a registry with this history answers: a known alias leads to a filter, the last one that
has it, and the filters that are listed are those that can still be reached. -/
structure LastWins (r : Registry) (history : List Filter) : Prop where
  inRange : ∀ p ∈ r.owners, p.2 < r.filters.length
  known : ∀ a i, r.owners.lookup a = some i → ∃ f, r.filters[i]? = some f ∧ r.lookup a = some f
  last : ∀ a, r.lookup a = history.reverse.find? fun f => a ∈ f.aliases
  listed : r.listed = unshadowed history
  isEmpty_iff_listed : r.isEmpty = true ↔ r.listed = []
  isEmpty_iff_lookup : r.isEmpty = true ↔ ∀ a, r.lookup a = none

lemma Records.lastWins {history : List Filter} (h : r.Records history) : r.LastWins history where
  inRange := h.inRange
  known _ _ hi := h.inRange.lookup_eq_some hi
  last := h.lookup
  listed := h.listed_eq
  isEmpty_iff_listed := h.inRange.isEmpty_iff.trans h.listed_eq_nil_iff.symm
  isEmpty_iff_lookup := h.inRange.isEmpty_iff

/-- The last registration wins, whatever was registered before, and whether the built-in filters
came first. -/
theorem registerAll_lastWins (fs : List Filter) :
    (empty.registerAll fs).LastWins fs ∧
      (builtin.registerAll fs).LastWins (builtin.filters ++ fs) := by
  have hbuiltin : builtin.Records builtin.filters := records_empty.registerAll builtin.filters
  exact ⟨(records_empty.registerAll fs).lastWins, (hbuiltin.registerAll fs).lastWins⟩

end Registry

end CardSearch
