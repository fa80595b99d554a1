import CardSearch.Proofs.Search.Laws
import CardSearch.Proofs.Search.Selection

/-!
# Searching within results

The parts of two groups joined to one group select what the second group selects from the results
of the first. The joined group goes through the records once and asks the second group only about
those that the first one accepts, and these are the records of the second pass. So every record gets
an answer in the one case as in the other. Where some record gets none, the error can be a
different one: the two passes meet an error of the first group before all errors of the second.
-/

namespace CardSearch

namespace Answer

variable {x y : Answer}

lemma exists_both_eq_ok_iff :
    (∃ b, x.both y = .ok b) ↔ (∃ b, x = .ok b) ∧ (x = .ok true → ∃ b, y = .ok b) := by
  cases x with
  | error e => simp [both]
  | ok b => cases b <;> simp [both]

lemma both_eq_yes_iff : x.both y = .ok true ↔ x = .ok true ∧ y = .ok true := by
  cases x with
  | error e => simp [both]
  | ok b => cases b <;> simp [both]

end Answer

namespace Term

/-! ### One record -/

section

variable (r : Record) (ts us : List Term)

lemma holds_group_append :
    (group (ts ++ us)).holds r = Answer.both ((group ts).holds r) ((group us).holds r) := by
  rw [holds_group, holds_group, holds_group, holdsAll_append]

lemma accepts_group_append :
    (group (ts ++ us)).accepts r = ((group us).accepts r && (group ts).accepts r) := by
  rw [Bool.eq_iff_iff, Bool.and_eq_true, accepts_iff, accepts_iff, accepts_iff, holds_group_append,
    Answer.both_eq_yes_iff, and_comm]

end

/-! ### All records -/

variable {α : Type} [Searchable α] (ts us : List Term) (rs : List α)

/-- The joined group answers for all records if the first group does, and the second group does for
those that the first one accepts. -/
lemma answers_group_append_iff :
    (∀ q ∈ rs, ∃ b, (group (ts ++ us)).holds (record q) = .ok b) ↔
      (∀ q ∈ rs, ∃ b, (group ts).holds (record q) = .ok b) ∧
      ∀ q ∈ rs.filter fun q => (group ts).accepts (record q),
        ∃ b, (group us).holds (record q) = .ok b := by
  simp only [holds_group_append, Answer.exists_both_eq_ok_iff, List.mem_filter, accepts_iff]
  constructor
  · intro h
    exact ⟨fun q hq => (h q hq).1, fun q hq => (h q hq.1).2 hq.2⟩
  · rintro ⟨hts, hus⟩ q hq
    exact ⟨hts q hq, fun hyes => hus q ⟨hq, hyes⟩⟩

lemma select_group_append_eq_ok_iff {found : List α} :
    (group (ts ++ us)).select rs = .ok found ↔
      ∃ kept, (group ts).select rs = .ok kept ∧ (group us).select kept = .ok found := by
  have hfilter : (rs.filter fun q => (group (ts ++ us)).accepts (record q)) =
      (rs.filter fun q => (group ts).accepts (record q)).filter
        fun q => (group us).accepts (record q) := by
    simp only [List.filter_filter, accepts_group_append]
  simp only [select_eq_ok_iff]
  rw [answers_group_append_iff, hfilter]
  constructor
  · rintro ⟨⟨hts, hus⟩, hfound⟩
    exact ⟨_, ⟨hts, rfl⟩, hus, hfound⟩
  · rintro ⟨kept, ⟨hts, rfl⟩, hus, hfound⟩
    exact ⟨⟨hts, hus⟩, hfound⟩

/-- Selecting with the parts of two groups fails exactly if selecting with the first group fails, or
selecting with the second one from its results. If it does not fail, then it gives the records that
the second group selects from the results of the first, in the same order. -/
theorem select_within_results :
    ((∃ e, (group (ts ++ us)).select rs = .error e) ↔
      (∃ e, (group ts).select rs = .error e) ∨
      ∃ kept, (group ts).select rs = .ok kept ∧ ∃ e, (group us).select kept = .error e) ∧
    ∀ found, (group (ts ++ us)).select rs = .ok found ↔
      ∃ kept, (group ts).select rs = .ok kept ∧ (group us).select kept = .ok found := by
  constructor
  · have hfails {β : Type} (x : Except SearchError β) :
        (∃ e, x = .error e) ↔ ¬ ∃ found, x = .ok found := by
      cases x <;> simp
    simp only [hfails, select_group_append_eq_ok_iff]
    -- the first group fails, or it is up to the second one
    cases (group ts).select rs with
    | error e => simp
    | ok kept => simp
  · intro found
    exact select_group_append_eq_ok_iff ts us rs

end Term

end CardSearch
