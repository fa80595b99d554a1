import CardSearch.Proofs.Query.Strict
import CardSearch.Query.Events
import Mathlib.Data.List.Induction

/-!
# The history of a scan

A scan finishes words and opens and closes groups. A walk over the tree of the query meets the same
leaves, and enters and leaves the same groups, in the same order. Only what comes after the `cut` is
lost, which is the outermost parenthesis that is not closed.

What a scanner has `walked` is the walk over all terms it keeps, from the outermost group inwards,
where the groups that are open are entered and not left. Taking a character adds to it what the
character brings about, and nothing else.
-/

namespace CardSearch

/-- What a walk over a tree meets, and what a scan adds to one. -/
inductive Visit where
  | leaf (t : Term)
  | enter
  | leave

namespace Term

mutual
/-- The walk over a term, from left to right. -/
def walk : Term → List Visit
  | .name word          => [.leaf (.name word)]
  | .neg t              => [.leaf (.neg t)]
  | .filter a f op word => [.leaf (.filter a f op word)]
  | .or l r             => l.walk ++ r.walk
  | .group ts           => .enter :: (walkAll ts ++ [.leave])

/-- The walk over some terms. -/
def walkAll : List Term → List Visit
  | []      => []
  | t :: ts => t.walk ++ walkAll ts
end

@[simp] lemma walkAll_nil : walkAll [] = [] := by simp [walkAll]

@[simp] lemma walkAll_append (ts us : List Term) :
    walkAll (ts ++ us) = walkAll ts ++ walkAll us := by
  induction ts with
  | nil => simp
  | cons t ts ih => simp [walkAll, ih]

@[simp] lemma walkAll_singleton (t : Term) : walkAll [t] = t.walk := by simp [walkAll]

end Term

/-- The leaf that an event reports. -/
def Event.completedLeaf? : Event → Option Term
  | .wordCompleted leaf => some leaf
  | _                   => none

namespace Query

namespace Scanner

variable (registry : Registry) (s : Scanner) (position : Nat) (c : Char) (cs : List Char)

/-! ### Histories -/

/-- The leaves that some events report. -/
def leafVisits (events : List Event) : List Visit := (events.filterMap (·.completedLeaf?)).map .leaf

/-- The parenthesis that a character is: one that opens a group or closes an open one. -/
def bracketVisits : List Visit :=
  if s.quoting = .outside ∧ c = '(' then [.enter]
  else if s.quoting = .outside ∧ c = ')' ∧ s.enclosing ≠ [] then [.leave]
  else []

/-- What a scan does from a position on: the words it reports as completed, and the groups that it
opens and closes. -/
def history (s : Scanner) (position : Nat) : List Char → List Visit
  | []      => []
  | c :: cs =>
    leafVisits (s.stepEvents .lenient registry position c) ++ s.bracketVisits c ++
      match s.step .lenient registry position c with
      | .error _ => []
      | .ok s    => s.history (position + 1) cs

/-- The position of the outermost parenthesis whose group is open; the end of the query if there is
none. -/
def cut (length : Nat) : Nat :=
  match s.enclosing.getLast? with
  | some e => e.opened
  | none   => length

lemma history_cons :
    s.history registry position (c :: cs) =
      leafVisits (s.stepEvents .lenient registry position c) ++ s.bracketVisits c ++
        (s.advance registry position c).history registry (position + 1) cs := by
  rw [history, step_lenient]

lemma leafVisits_completionEvents :
    leafVisits (s.completionEvents registry) =
      if s.word = "" then [] else [.leaf (s.leaf registry)] := by
  rw [completionEvents, leaf?_eq]
  split_ifs <;> simp [leafVisits, Event.completedLeaf?]

lemma leafVisits_closeEvents : leafVisits (s.closeEvents position) = [] := by
  rw [closeEvents]
  split_ifs <;> simp [leafVisits, Event.completedLeaf?]

lemma leafVisits_stepEvents :
    leafVisits (s.stepEvents .lenient registry position c) =
      if s.role c = .openGroup ∨ s.role c = .blank then leafVisits (s.completionEvents registry)
      else [] := by
  cases hr : s.role c
  case closeGroup => simp [stepEvents, hr, leafVisits_closeEvents]
  all_goals simp [stepEvents, hr, leafVisits]

lemma bracketVisits_eq :
    s.bracketVisits c =
      if s.role c = .openGroup then [.enter]
      else if s.role c = .closeGroup ∧ s.enclosing ≠ [] then [.leave]
      else [] := by
  simp only [bracketVisits, role_eq_openGroup_iff, role_eq_closeGroup_iff, and_assoc]

/-! ### What is walked -/

/-- The walk over everything that is kept. -/
def walked : List Visit :=
  s.enclosing.reverse.flatMap (fun e => Term.walkAll e.before.reverse ++ [.enter]) ++
    Term.walkAll s.terms.reverse

lemma walk_leaf : (s.leaf registry).walk = [.leaf (s.leaf registry)] := by
  rw [leaf, bareLeaf]
  split_ifs
  · simp [Term.walk]
  · cases s.pre <;> simp [Term.walk]

lemma walkAll_joined (bar : Option Nat) (terms : List Term) (leaf : Term) :
    Term.walkAll (joined bar terms leaf).reverse = Term.walkAll terms.reverse ++ leaf.walk := by
  rcases joined_cases bar terms leaf with hj | ⟨left, rest, rfl, hj⟩
  · simp [hj]
  · simp [hj, Term.walk]

lemma walked_completed :
    (s.completed registry).walked = s.walked ++ leafVisits (s.completionEvents registry) := by
  rw [leafVisits_completionEvents]
  by_cases hw : s.word = ""
  · simp [completed_of_word_eq_empty registry s hw, hw]
  · simp [completed_of_word_ne_empty registry s hw, hw, walked, attached, walkAll_joined, walk_leaf]

lemma walked_openGroup : (s.openGroup position).walked = s.walked ++ [.enter] := by
  simp [walked, openGroup]

lemma walked_closeInnermost :
    s.closeInnermost.walked = s.walked ++ if s.enclosing = [] then [] else [.leave] := by
  rw [closeInnermost]
  cases he : s.enclosing with
  | nil => simp [walked, he]
  | cons e es => simp [walked, he, Term.walk]

lemma walked_operator : (s.operator c).walked = s.walked := by
  obtain ⟨word, pre, ho⟩ := s.exists_operator_eq c
  rw [ho, walked, walked]

/-! ### Steps and runs -/

lemma walked_advance :
    (s.advance registry position c).walked = s.walked ++
      (leafVisits (s.stepEvents .lenient registry position c) ++ s.bracketVisits c) := by
  rw [leafVisits_stepEvents, bracketVisits_eq, advance]
  cases hr : s.role c
  case openGroup => simp [walked_openGroup, walked_completed]
  case closeGroup =>
    by_cases he : s.enclosing = [] <;> simp [walked_closeInnermost, he]
  case blank => simp [walked_completed]
  case operator => simp [walked_operator]
  -- the rest adds no term and leaves the groups as they are
  all_goals simp [walked, push]

lemma walked_after :
    (s.after registry position cs).walked = s.walked ++ s.history registry position cs := by
  induction cs generalizing s position with
  | nil => simp [history]
  | cons c cs ih =>
    rw [after_cons, ih, walked_advance, history_cons, List.append_assoc]

lemma walked_start : start.walked = [] := by simp [walked, start]

lemma walked_of_enclosing_eq_nil (he : s.enclosing = []) :
    s.walked = Term.walkAll s.terms.reverse := by
  simp [walked, he]

/-! ### The cut -/

lemma enclosing_advance_cases :
    (s.advance registry position c).enclosing = s.enclosing ∨
    (s.role c = .openGroup ∧ (s.advance registry position c).enclosing =
      ⟨position, (s.completed registry).terms⟩ :: s.enclosing) ∨
    ∃ e, s.enclosing = e :: (s.advance registry position c).enclosing := by
  rw [enclosing_advance]
  cases s.role c
  case openGroup => exact .inr (.inl ⟨rfl, rfl⟩)
  case closeGroup =>
    cases s.enclosing with
    | nil => exact .inl rfl
    | cons e es => exact .inr (.inr ⟨e, rfl⟩)
  all_goals exact .inl rfl

/-- Where a group is open, the outermost one was opened outside all groups, and what stands before
it has stayed as it was. -/
lemma exists_outermost_open {e : Enclosing}
    (h : (start.after registry 0 cs).enclosing.getLast? = some e) :
    ∃ u v, cs = u ++ '(' :: v ∧ u.length = e.opened ∧
      (start.after registry 0 u).quoting = .outside ∧
      (start.after registry 0 u).enclosing = [] ∧
      ((start.after registry 0 u).completed registry).terms = e.before := by
  induction cs using List.reverseRecOn with
  | nil => simp [start] at h
  | append_singleton cs c ih =>
    have hearlier : (start.after registry 0 cs).enclosing.getLast? = some e →
        ∃ u v, cs ++ [c] = u ++ '(' :: v ∧ u.length = e.opened ∧
          (start.after registry 0 u).quoting = .outside ∧
          (start.after registry 0 u).enclosing = [] ∧
          ((start.after registry 0 u).completed registry).terms = e.before := by
      intro hlast
      obtain ⟨u, v, rfl, hu⟩ := ih hlast
      exact ⟨u, v ++ [c], by simp, hu⟩
    rw [after_concat, Nat.zero_add] at h
    rcases enclosing_advance_cases registry (start.after registry 0 cs) cs.length c with
      he | ⟨hr, he⟩ | ⟨d, he⟩
    · exact hearlier (he ▸ h)
    · rw [he] at h
      obtain ⟨hq, rfl⟩ := role_eq_openGroup_iff.mp hr
      cases hes : (start.after registry 0 cs).enclosing with
      | nil =>
        rw [hes, List.getLast?_singleton, Option.some.injEq] at h
        subst h
        exact ⟨cs, [], rfl, rfl, hq, hes, rfl⟩
      | cons d es =>
        rw [hes, List.getLast?_cons_cons] at h
        exact hearlier (hes ▸ h)
    · apply hearlier
      rw [he]
      cases hes : (advance registry (start.after registry 0 cs) cs.length c).enclosing with
      | nil => simp [hes] at h
      | cons d' es => rwa [List.getLast?_cons_cons, ← hes]

/-- The tree of a query is made of the terms that the scan has at the cut. -/
lemma rootTerms_eq_at_cut :
    ∃ u, u = cs.take ((start.after registry 0 cs).cut cs.length) ∧
      ((start.after registry 0 u).completed registry).enclosing = [] ∧
      ((start.after registry 0 cs).completed registry).rootTerms =
        ((start.after registry 0 u).completed registry).terms.reverse := by
  refine ⟨_, rfl, ?_⟩
  rw [cut, rootTerms, enclosing_completed, enclosing_completed]
  cases he : (start.after registry 0 cs).enclosing.getLast? with
  | none =>
    rw [List.getLast?_eq_none_iff] at he
    simp [he]
  | some e =>
    obtain ⟨u, v, rfl, hu, -, henclosing, hterms⟩ := exists_outermost_open registry cs he
    have htake : (u ++ '(' :: v).take e.opened = u := by simp [← hu]
    simp [htake, henclosing, hterms]

end Scanner

/-- The walk over the tree of a query, without the root, is the history of the scan up to the cut,
with the word that the cut finishes. -/
theorem walkAll_eq_history (registry : Registry) (query : String) :
    ∃ s s' ts, Reaches registry query.toList s ∧
      Reaches registry (query.toList.take (s.cut query.toList.length)) s' ∧
      parse registry query = .group ts ∧
      Term.walkAll ts =
        Scanner.start.history registry 0 (query.toList.take (s.cut query.toList.length)) ++
          Scanner.leafVisits (s'.completionEvents registry) := by
  obtain ⟨u, hu, henclosing, hroot⟩ := Scanner.rootTerms_eq_at_cut registry query.toList
  refine ⟨_, _, _, reaches_iff.mpr rfl, reaches_iff.mpr rfl, parse_eq registry query, ?_⟩
  rw [← hu, hroot, ← Scanner.walked_of_enclosing_eq_nil _ henclosing, Scanner.walked_completed,
    Scanner.walked_after, Scanner.walked_start, List.nil_append]

end Query

end CardSearch
