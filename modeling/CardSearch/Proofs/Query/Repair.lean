import CardSearch.Proofs.Query.Frame
import CardSearch.Proofs.Query.Nesting

/-!
# What lenient mode leaves out

Lenient mode repairs the parentheses of a query by leaving out what does not belong. Where groups
are open at the end, everything from the outermost `(` that is not closed is left out. Where nothing
is open and no word has begun, a `)` is left out alone.

Without that `)` all positions behind it are smaller by one. No scan looks at them: reading commutes
with forgetting the positions, `unplaced`.
-/

namespace CardSearch.Query

lemma Quoting.unplaced_unplaced (q : Quoting) : q.unplaced.unplaced = q.unplaced := by
  cases q <;> rfl

namespace Scanner

variable (registry : Registry) (s : Scanner) (position : Nat) (c : Char) (cs : List Char)

/-! ### Without positions -/

/-- A scanner without the positions that it remembers. -/
def unplaced : Scanner :=
  { s with
    quoting := s.quoting.unplaced
    negated := s.negated.map fun _ => 0
    bar := s.bar.map fun _ => 0
    enclosing := s.enclosing.map fun e => { e with opened := 0 } }

lemma sameTyping_unplaced : SameTyping s s.unplaced := ⟨rfl, rfl, s.quoting.unplaced_unplaced⟩

lemma joined_map (f : Nat → Nat) (bar : Option Nat) (terms : List Term) (leaf : Term) :
    joined (bar.map f) terms leaf = joined bar terms leaf := by
  cases bar <;> cases terms <;> rfl

lemma leaf_unplaced : s.unplaced.leaf registry = s.leaf registry := by
  rw [leaf, leaf, unplaced, Option.isSome_map]
  rfl

lemma unplaced_attached (leaf : Term) : (s.attached leaf).unplaced = s.unplaced.attached leaf := by
  simp only [unplaced, attached, joined_map, Option.map_none]

lemma unplaced_completed : (s.completed registry).unplaced = s.unplaced.completed registry := by
  by_cases hw : s.word = ""
  · rw [completed_of_word_eq_empty registry s hw, completed_of_word_eq_empty registry s.unplaced hw]
  · rw [completed_of_word_ne_empty registry s hw,
      completed_of_word_ne_empty registry s.unplaced hw, unplaced_attached, leaf_unplaced]

lemma unplaced_operator : (s.operator c).unplaced = s.unplaced.operator c := by
  rw [operator, operator, s.sameTyping_unplaced.pre, s.sameTyping_unplaced.word]
  cases s.pre <;> dsimp only <;> split_ifs <;> rfl

lemma unplaced_closeInnermost : s.closeInnermost.unplaced = s.unplaced.closeInnermost := by
  rw [closeInnermost, closeInnermost]
  cases he : s.enclosing <;> simp [unplaced, he]

/-- Taking a character does not depend on positions. -/
lemma unplaced_advance :
    (s.advance registry position c).unplaced = s.unplaced.advance registry 0 c := by
  rw [advance, advance, s.sameTyping_unplaced.role]
  cases s.role c
  case escaped => simp only [unplaced, push, Quoting.unplaced_resumed]
  case beginEscape => simp only [unplaced, Quoting.unplaced_escaped]
  case openGroup =>
    rw [← unplaced_completed]
    rfl
  case closeGroup => exact s.unplaced_closeInnermost
  case operator => exact s.unplaced_operator c
  case blank => exact s.unplaced_completed registry
  all_goals rfl

variable {s} {s' : Scanner} in
/-- Two scans that differ in positions only go on to do so. -/
lemma unplaced_after_congr (h : s.unplaced = s'.unplaced) (position position' : Nat) :
    (s.after registry position cs).unplaced = (s'.after registry position' cs).unplaced := by
  induction cs generalizing s s' position position' with
  | nil => exact h
  | cons c cs ih =>
    apply ih
    rw [unplaced_advance, unplaced_advance, h]

lemma rootTerms_unplaced : s.unplaced.rootTerms = s.rootTerms := by
  rw [rootTerms, rootTerms, unplaced, List.getLast?_map]
  cases s.enclosing.getLast? <;> rfl

lemma rootTerms_of_enclosing_eq_nil (he : s.enclosing = []) : s.rootTerms = s.terms.reverse := by
  rw [rootTerms, he, List.getLast?_nil]

variable {s} in
/-- A `)` that finds neither a group nor a word changes nothing. -/
lemma closeInnermost_eq_self (he : s.enclosing = []) (hw : s.word = "") :
    s.closeInnermost = s := by
  obtain ⟨word, pre, quoting, negated, bar, terms, enclosing⟩ := s
  subst he hw
  rfl

end Scanner

/-! ### Repairs -/

/-- Where groups are open at the end, the query is read as if it ended at the outermost parenthesis
that is not closed. -/
lemma parse_eq_parse_take {registry : Registry} {query : String} {e : Enclosing}
    (he : (Scanner.start.after registry 0 query.toList).enclosing.getLast? = some e) :
    parse registry query = parse registry (String.ofList (query.toList.take e.opened)) := by
  obtain ⟨u, hu, henclosing, hroot⟩ := Scanner.rootTerms_eq_at_cut registry query.toList
  rw [Scanner.cut, he] at hu
  rw [parse_eq, parse_eq, hroot, String.toList_ofList, ← hu,
    Scanner.rootTerms_of_enclosing_eq_nil _ henclosing]

/-- Lenient mode reads a query as if the parentheses that do not belong were not there: the
outermost one that is not closed, with everything after it, and a `)` where no group is open and no
word has begun. -/
theorem parse_eq_parse_deleted (registry : Registry) :
    (∀ query s e, Reaches registry query.toList s → s.enclosing.getLast? = some e →
      IsLeast {p | Unclosed registry query.toList p} e.opened ∧
        parse registry query = parse registry (String.ofList (query.toList.take e.opened))) ∧
    ∀ (u v : String) s, Reaches registry u.toList s → s.quoting = .outside → s.enclosing = [] →
      s.word = "" → parse registry (u ++ ")" ++ v) = parse registry (u ++ v) := by
  constructor
  · intro query s e hs he
    obtain rfl := reaches_iff.mp hs
    exact ⟨isLeast_unclosed he, parse_eq_parse_take he⟩
  · intro u v s hs ho he hw
    obtain rfl := reaches_iff.mp hs
    have hlist : (u ++ ")" ++ v).toList = u.toList ++ ')' :: v.toList := by simp
    rw [parse_eq, parse_eq, hlist, String.toList_append, Scanner.after_append,
      Scanner.after_append, Scanner.after_cons, Scanner.advance_close _ _ ho,
      Scanner.closeInnermost_eq_self he hw]
    have hunplaced := Scanner.unplaced_after_congr registry v.toList
      (s := Scanner.start.after registry 0 u.toList) rfl (0 + u.toList.length + 1)
      (0 + u.toList.length)
    rw [← Scanner.rootTerms_unplaced, Scanner.unplaced_completed, hunplaced,
      ← Scanner.unplaced_completed, Scanner.rootTerms_unplaced]

/-- What is left out may hold closed groups and quoted parentheses; marks that wait are kept. -/
theorem parse_eq_parse_deleted_open :
    ∃ s e s', Reaches Registry.builtin "a (b (c )\")\" | d".toList s ∧
      s.enclosing.getLast? = some e ∧ e.opened = 2 ∧
      parse Registry.builtin "a (b (c )\")\" | d" = parse Registry.builtin "a " ∧
      Reaches Registry.builtin "a | !r:".toList s' ∧ s'.quoting = .outside ∧
      s'.enclosing = [] ∧ s'.word = "" ∧
      parse Registry.builtin "a | !r:)b" = parse Registry.builtin "a | !r:b" := by
  have h := parse_eq_parse_deleted Registry.builtin
  exact ⟨_, _, _, rfl, rfl, rfl, (h.1 "a (b (c )\")\" | d" _ _ rfl rfl).2, rfl, rfl, rfl, rfl,
    h.2 "a | !r:" "b" _ rfl rfl rfl rfl⟩

end CardSearch.Query
