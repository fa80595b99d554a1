import CardSearch.Text.Basic
import Mathlib.Data.List.TakeWhile

/-!
# Trimmed texts

Trimming cuts off the white space at the two ends of a text and nothing else. What is left has none
there, a text that has none there is left as it is, and nothing is left of white space alone.
-/

namespace CardSearch.Text

variable {cs : List Char}

/-- Without white space at its two ends. -/
structure Trimmed (cs : List Char) : Prop where
  first : ∀ c ∈ cs.head?, isBlank c = false
  last : ∀ c ∈ cs.getLast?, isBlank c = false

/-- Nothing but white space. -/
def AllBlank (cs : List Char) : Prop := ∀ c ∈ cs, isBlank c = true

lemma isBlank_of_mem_head?_dropWhile {c : Char} (h : c ∈ (cs.dropWhile isBlank).head?) :
    isBlank c = false := by
  have hnot := List.head?_dropWhile_not isBlank cs
  rw [Option.mem_def.mp h] at hnot
  exact hnot

lemma dropWhile_isBlank_eq_self (h : ∀ c ∈ cs.head?, isBlank c = false) :
    cs.dropWhile isBlank = cs := by
  cases cs with
  | nil => rfl
  | cons c cs => exact List.dropWhile_cons_of_neg (by simp [h c rfl])

lemma trimmed_trimList (cs : List Char) : Trimmed (trimList cs) where
  first c hc := by
    -- What is cut off behind leaves the first character in its place.
    obtain ⟨cut, hcut⟩ := List.dropWhile_suffix isBlank (l := (cs.dropWhile isBlank).reverse)
    have hsplit : trimList cs ++ cut.reverse = cs.dropWhile isBlank := by
      rw [trimList, ← List.reverse_append, hcut, List.reverse_reverse]
    have hfirst : c ∈ (cs.dropWhile isBlank).head? := by
      rw [← hsplit, List.head?_append, Option.mem_def.mp hc]
      rfl
    exact isBlank_of_mem_head?_dropWhile hfirst
  last c hc := by
    rw [trimList, List.getLast?_reverse] at hc
    exact isBlank_of_mem_head?_dropWhile hc

lemma Trimmed.trimList_eq (h : Trimmed cs) : trimList cs = cs := by
  rw [trimList, dropWhile_isBlank_eq_self h.first, dropWhile_isBlank_eq_self, List.reverse_reverse]
  rw [List.head?_reverse]
  exact h.last

lemma trimList_eq_nil_iff : trimList cs = [] ↔ AllBlank cs := by
  rw [trimList, List.reverse_eq_nil_iff, List.dropWhile_eq_nil_iff]
  simp only [List.mem_reverse]
  constructor
  · intro h c hc
    rw [← List.takeWhile_append_dropWhile (p := isBlank) (l := cs), List.mem_append] at hc
    exact hc.elim (fun hc => List.mem_takeWhile_imp hc) (h c)
  · intro h c hc
    exact h c ((List.dropWhile_sublist isBlank).subset hc)

lemma mem_of_mem_trimList {c : Char} (h : c ∈ trimList cs) : c ∈ cs := by
  rw [trimList, List.mem_reverse] at h
  have hrest := (List.dropWhile_sublist isBlank).subset h
  rw [List.mem_reverse] at hrest
  exact (List.dropWhile_sublist isBlank).subset hrest

end CardSearch.Text
