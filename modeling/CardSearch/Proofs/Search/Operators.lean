import CardSearch.Proofs.Sorting.Threshold
import CardSearch.Term

/-!
# What the operators say together

The seven operators look at a value and a word in one way. Either there is nothing to compare and
all of them say no; or two numbers are compared and one of them is no number, so that they only
differ; or the two are in order. In order one of `<`, `=` and `>` holds and decides about the other
operators, but for `:` on texts, which is only implied by `=`.

So an operator is the complement of the opposite one where the two are in order, and only there.
-/

namespace CardSearch

/-- The ways in which a value and a word compare. -/
inductive Comparison where
  /-- There is no value, or it is a number and the word does not stand for one. -/
  | missing
  /-- Two numbers are compared, and one of them is not a number. -/
  | unordered
  /-- Two texts, or two numbers that are in order. -/
  | ordered
deriving DecidableEq

namespace Comparison

/-- How a value and a word compare. -/
def of (v : Value) (word : String) : Comparison :=
  match v with
  | .absent   => .missing
  | .text _   => .ordered
  | .number x =>
    match Number.read? (Text.trim word) with
    | none   => .missing
    | some y => if x.isNaN || y.isNaN then .unordered else .ordered

/-- One of `<`, `=` and `>` holds, and the other operators follow from these three. -/
structure Consistent (v : Value) (word : String) : Prop where
  one : ∃! o, o ∈ [Operator.lt, .eq, .gt] ∧ compareWord v o word = true
  le : compareWord v .le word = (compareWord v .lt word || compareWord v .eq word)
  ge : compareWord v .ge word = (compareWord v .gt word || compareWord v .eq word)
  ne : compareWord v .ne word = !compareWord v .eq word
  has : compareWord v .eq word = true → compareWord v .has word = true
  has_number : ∀ x, v = .number x → compareWord v .has word = compareWord v .eq word

/-- What the operators answer in each case. -/
def Answers : Comparison → Value → String → Prop
  | .missing,   v, word => ∀ o, compareWord v o word = false
  | .unordered, v, word => ∀ o, compareWord v o word = (o == .ne)
  | .ordered,   v, word => Consistent v word

variable {v : Value} {word : String} {c : Comparison}

/-! ### The answers in each case -/

/-- One outcome decides about all operators, but for `:` on texts. -/
structure DecidedBy (d : Ordering) (v : Value) (word : String) : Prop where
  holds : ∀ o, o ≠ .has → compareWord v o word = o.holds d
  has : d = .eq → compareWord v .has word = true
  has_number : ∀ x, v = .number x → compareWord v .has word = Operator.has.holds d

lemma decidedBy_text (s word : String) :
    DecidedBy (compare (Text.lower word) (Text.lower s)) (.text s) word := by
  constructor
  · intro o ho
    exact compareText_eq_holds ho s word
  · intro heq
    rw [compareWord, compareText, Text.occurs_iff]
    exact Std.LawfulEqCmp.eq_of_compare heq ▸ List.infix_rfl
  · simp

lemma decidedBy_number {x y : Number} (hread : Number.read? (Text.trim word) = some y)
    (hx : x.isNaN = false) (hy : y.isNaN = false) :
    DecidedBy (compare y.rank x.rank) (.number x) word := by
  have hholds (o : Operator) :
      compareWord (.number x) o word = o.holds (compare y.rank x.rank) := by
    rw [compareWord_number_of_some hread, Number.compare?_of_isNaN_eq_false hy hx]
    rfl
  constructor
  · intro o _
    exact hholds o
  · intro heq
    rw [hholds, heq]
    rfl
  · intro _ _
    exact hholds .has

lemma DecidedBy.consistent {d : Ordering} (h : DecidedBy d v word) : Consistent v word := by
  have hlt := h.holds .lt (by simp)
  have heq := h.holds .eq (by simp)
  have hgt := h.holds .gt (by simp)
  constructor
  · cases d with
    | lt => exact ⟨.lt, by simp [hlt, Operator.holds], by simp [heq, hgt, Operator.holds]⟩
    | eq => exact ⟨.eq, by simp [heq, Operator.holds], by simp [hlt, hgt, Operator.holds]⟩
    | gt => exact ⟨.gt, by simp [hgt, Operator.holds], by simp [hlt, heq, Operator.holds]⟩
  · rw [h.holds .le (by simp), hlt, heq]
    cases d <;> rfl
  · rw [h.holds .ge (by simp), hgt, heq]
    cases d <;> rfl
  · rw [h.holds .ne (by simp), heq]
    cases d <;> rfl
  · rw [heq]
    intro hd
    exact h.has (by simpa [Operator.holds] using hd)
  · intro x hx
    rw [h.has_number x hx, heq]
    rfl

lemma of_number (x : Number) (word : String) :
    of (.number x) word = (Number.read? (Text.trim word)).elim .missing
      fun y => if x.isNaN || y.isNaN then .unordered else .ordered := by
  unfold of
  cases Number.read? (Text.trim word) <;> rfl

/-- In each case what the operators answer. -/
lemma of_cases (v : Value) (word : String) :
    (of v word = .missing ∧ ∀ o, compareWord v o word = false) ∨
      (of v word = .unordered ∧ ∀ o, compareWord v o word = (o == .ne)) ∨
      (of v word = .ordered ∧ ∃ d, DecidedBy d v word) := by
  cases v with
  | absent => exact .inl ⟨rfl, fun _ => rfl⟩
  | text s => exact .inr (.inr ⟨rfl, _, decidedBy_text s word⟩)
  | number x =>
    rw [of_number]
    cases hread : Number.read? (Text.trim word) with
    | none => exact .inl ⟨rfl, compareWord_number_of_none hread x⟩
    | some y =>
      rw [Option.elim_some]
      split_ifs with hnan
      · have horder : y.compare? x = none := by rw [Number.compare?, Bool.or_comm, if_pos hnan]
        refine .inr (.inl ⟨rfl, fun o => ?_⟩)
        rw [compareWord_number_of_some hread, horder]
        rfl
      · obtain ⟨hx, hy⟩ := Bool.or_eq_false_iff.mp (Bool.eq_false_of_not_eq_true hnan)
        exact .inr (.inr ⟨rfl, _, decidedBy_number hread hx hy⟩)

lemma answers_of (v : Value) (word : String) : (of v word).Answers v word := by
  rcases of_cases v word with ⟨hof, h⟩ | ⟨hof, h⟩ | ⟨hof, d, h⟩
  · rw [hof]
    exact h
  · rw [hof]
    exact h
  · rw [hof]
    exact h.consistent

/-! ### The case of given answers -/

/-- The case that the answers speak for. -/
def spokenFor (v : Value) (word : String) : Comparison :=
  if [Operator.lt, .eq, .gt].any fun o => compareWord v o word then .ordered
  else if compareWord v .ne word then .unordered
  else .missing

lemma Answers.eq_spokenFor (h : c.Answers v word) : c = spokenFor v word := by
  cases c with
  | missing =>
    have hnone (o : Operator) : compareWord v o word = false := h o
    simp [spokenFor, hnone]
  | unordered =>
    have hne (o : Operator) : compareWord v o word = (o == .ne) := h o
    simp [spokenFor, hne]
  | ordered =>
    obtain ⟨o, ⟨ho, hword⟩, -⟩ := Consistent.one h
    have hany : ([Operator.lt, .eq, .gt].any fun o => compareWord v o word) = true :=
      List.any_eq_true.mpr ⟨o, ho, hword⟩
    rw [spokenFor, if_pos hany]

/-- No two cases have the same answers. -/
lemma answers_iff : c.Answers v word ↔ of v word = c := by
  constructor
  · intro h
    rw [h.eq_spokenFor, (answers_of v word).eq_spokenFor]
  · rintro rfl
    exact answers_of v word

/-! ### Opposite operators -/

/-- Of two operators that answer the opposite in each order, one is the complement of the other
where a value and a word are in order, and only there. -/
lemma not_eq_iff_ordered {o p : Operator} (ho : o ≠ .has ∧ o ≠ .ne) (hp : p ≠ .has ∧ p ≠ .ne)
    (hopposite : ∀ d, (!o.holds d) = p.holds d) :
    (!compareWord v o word) = compareWord v p word ↔ of v word = .ordered := by
  rcases of_cases v word with ⟨hof, h⟩ | ⟨hof, h⟩ | ⟨hof, d, h⟩
  · simp [hof, h]
  · simp [hof, h, ho.2, hp.2]
  · simp [hof, h.holds o ho.1, h.holds p hp.1, hopposite d]

lemma not_eq_eq_ne_iff :
    (!compareWord v .eq word) = compareWord v .ne word ↔ of v word ≠ .missing := by
  rcases of_cases v word with ⟨hof, h⟩ | ⟨hof, h⟩ | ⟨hof, d, h⟩
  · simp [hof, h]
  · simp [hof, h]
  · simp [hof, h.consistent.ne]

end Comparison

/-! ### Negated filter terms -/

namespace Term

variable {r : Record} {a word : String} {f : Filter} {o p : Operator}

lemma holds_filter : (filter a (some f) o.token word).holds r = .ok (f.holds r o word) := by
  simp [holds, filterHolds]

lemma holds_neg_filter_eq_iff :
    (neg (filter a (some f) o.token word)).holds r = (filter a (some f) p.token word).holds r ↔
      (!compareWord (f.value r) o word) = compareWord (f.value r) p word := by
  rw [holds, holds_filter, holds_filter]
  simp [Except.map, Filter.holds]

end Term

/-- The answers of the operators are those of the one case that a value and a word are in. The
negation of `>` is `<=`, and that of `>=` is `<`, where the two are in order and nowhere else; the
negation of `=` is `!=` where there are two things to compare. -/
theorem operators_consistent (word : String) :
    (∀ (v : Value) (c : Comparison), c.Answers v word ↔ Comparison.of v word = c) ∧
    ∀ (a : String) (f : Filter) (r : Record),
      ((Term.neg (.filter a (some f) ">" word)).holds r =
          (Term.filter a (some f) "<=" word).holds r ↔
        Comparison.of (f.value r) word = .ordered) ∧
      ((Term.neg (.filter a (some f) ">=" word)).holds r =
          (Term.filter a (some f) "<" word).holds r ↔
        Comparison.of (f.value r) word = .ordered) ∧
      ((Term.neg (.filter a (some f) "=" word)).holds r =
          (Term.filter a (some f) "!=" word).holds r ↔
        Comparison.of (f.value r) word ≠ .missing) := by
  refine ⟨fun v c => Comparison.answers_iff, fun a f r => ⟨?_, ?_, ?_⟩⟩
  · exact (Term.holds_neg_filter_eq_iff (o := .gt) (p := .le)).trans
      (Comparison.not_eq_iff_ordered (by simp) (by simp) (by decide))
  · exact (Term.holds_neg_filter_eq_iff (o := .ge) (p := .lt)).trans
      (Comparison.not_eq_iff_ordered (by simp) (by simp) (by decide))
  · exact (Term.holds_neg_filter_eq_iff (o := .eq) (p := .ne)).trans Comparison.not_eq_eq_ne_iff

end CardSearch
