import CardSearch.Term
import Mathlib.Tactic.Common

/-!
# Boolean laws

A term answers whether a record matches, or with the error of a filter term in it. The parts of a
term are looked at from the left, and only for as long as they do not settle the answer. Of two
answers in this order the second one counts if the first one leaves the question open. That is
associative, and negation turns the one way to be settled into the other; an error settles either.

So terms keep the Boolean laws that do not change the order of their parts, and with them the error
that is met first.
-/

namespace CardSearch

/-- Whether a record matches, or why there is no saying. -/
abbrev Answer := Except SearchError Bool

namespace Answer

/-- The first answer, or the second one after a yes. -/
def both (x y : Answer) : Answer :=
  match x with
  | .ok true => y
  | answer   => answer

/-- The first answer, or the second one after a no. -/
def either (x y : Answer) : Answer :=
  match x with
  | .ok false => y
  | answer    => answer

/-- The opposite answer. An error stays what it is. -/
def not (x : Answer) : Answer := x.map (!·)

variable (x y z : Answer)

lemma not_not : x.not.not = x := by
  cases x with
  | error e => rfl
  | ok b => cases b <;> rfl

lemma both_assoc : (x.both y).both z = x.both (y.both z) := by
  cases x with
  | error e => rfl
  | ok b => cases b <;> rfl

lemma either_assoc : (x.either y).either z = x.either (y.either z) := by
  cases x with
  | error e => rfl
  | ok b => cases b <;> rfl

lemma not_both : (x.both y).not = x.not.either y.not := by
  cases x with
  | error e => rfl
  | ok b => cases b <;> rfl

lemma not_either : (x.either y).not = x.not.both y.not := by
  cases x with
  | error e => rfl
  | ok b => cases b <;> rfl

@[simp] lemma both_yes : x.both (.ok true) = x := by
  cases x with
  | error e => rfl
  | ok b => cases b <;> rfl

end Answer

namespace Term

variable (r : Record)

/-! ### The answers of terms -/

lemma holds_neg (t : Term) : (neg t).holds r = Answer.not (t.holds r) := by rw [holds, Answer.not]

lemma holds_or (a b : Term) : (or a b).holds r = Answer.either (a.holds r) (b.holds r) := by
  rw [holds]
  rfl

lemma holds_group (ts : List Term) : (group ts).holds r = holdsAll r ts := by rw [holds]

@[simp] lemma holdsAll_nil : holdsAll r [] = .ok true := by rw [holdsAll]

lemma holdsAll_cons (t : Term) (ts : List Term) :
    holdsAll r (t :: ts) = Answer.both (t.holds r) (holdsAll r ts) := by
  rw [holdsAll]
  rfl

lemma holdsAll_append (ts us : List Term) :
    holdsAll r (ts ++ us) = Answer.both (holdsAll r ts) (holdsAll r us) := by
  induction ts with
  | nil => rfl
  | cons t ts ih => rw [List.cons_append, holdsAll_cons, holdsAll_cons, ih, Answer.both_assoc]

lemma holds_foldl_or (t : Term) (ts : List Term) :
    (ts.foldl or t).holds r = ts.foldl (fun x u => Answer.either x (u.holds r)) (t.holds r) := by
  induction ts generalizing t with
  | nil => rfl
  | cons u ts ih => rw [List.foldl_cons, List.foldl_cons, ih, holds_or]

/-- What comes after an answer is negated part by part. -/
lemma not_both_holdsAll (x : Answer) (ts : List Term) :
    (x.both (holdsAll r ts)).not =
      ts.foldl (fun y u => Answer.either y ((neg u).holds r)) x.not := by
  induction ts generalizing x with
  | nil => rw [holdsAll_nil, Answer.both_yes, List.foldl_nil]
  | cons u ts ih =>
    rw [holdsAll_cons, ← Answer.both_assoc, ih, Answer.not_both, List.foldl_cons, holds_neg]

/-! ### The laws -/

/-- Double negation, the two laws of De Morgan, and that disjunctions and groups can be regrouped:
in each of these both sides have the same answer for a record, be it a truth value or an error. -/
theorem boolean_laws :
    (∀ t : Term, (neg (neg t)).holds r = t.holds r) ∧
    (∀ a b : Term, (neg (or a b)).holds r = (group [neg a, neg b]).holds r) ∧
    (∀ (t : Term) (ts : List Term),
      (neg (group (t :: ts))).holds r = ((ts.map neg).foldl or (neg t)).holds r) ∧
    (∀ a b c : Term, (or (or a b) c).holds r = (or a (or b c)).holds r) ∧
    ∀ xs ys zs : List Term,
      (group (xs ++ [group ys] ++ zs)).holds r = (group (xs ++ ys ++ zs)).holds r := by
  refine ⟨fun t => ?_, fun a b => ?_, fun t ts => ?_, fun a b c => ?_, fun xs ys zs => ?_⟩
  · rw [holds_neg, holds_neg, Answer.not_not]
  · rw [holds_neg, holds_or, Answer.not_either, holds_group, holdsAll_cons, holdsAll_cons,
      holdsAll_nil, Answer.both_yes, holds_neg, holds_neg]
  · rw [holds_neg, holds_group, holdsAll_cons, not_both_holdsAll, holds_foldl_or, List.foldl_map,
      holds_neg]
  · rw [holds_or, holds_or, Answer.either_assoc, holds_or, holds_or]
  · rw [holds_group, holds_group, holdsAll_append, holdsAll_append, holdsAll_append,
      holdsAll_append, holdsAll_cons, holdsAll_nil, Answer.both_yes, holds_group]

end Term

end CardSearch
