import CardSearch.Query.Parse
import Mathlib.Tactic.Common

/-!
# Lenient reading

Lenient mode never refuses a query, so reading leniently is a function on states: `completed`
finishes the word, `advance` takes one character and `after` takes several. They agree with
`completeWord`, `step` and `run`, and everything about a lenient scan is stated of them.
-/

namespace CardSearch.Query

namespace Scanner

variable (registry : Registry) (s : Scanner) (position : Nat) (c : Char) (cs : List Char)

/-! ### Characters -/

/-- The characters that finish a word outside quotes. -/
def wordEnds : List Char := ['(', ' ', '\t', '\n']

/-- The characters that operators are made of. -/
def operatorChars : List Char := [':', '=', '<', '>', '!']

/-- The characters that outside quotes are something other than a letter. -/
def marks : List Char := wordEnds ++ operatorChars ++ [')', '|', '"']

lemma role_cases :
    (s.quoting = .outside ∧ s.role c = s.plainRole c) ∨
    (s.quoting ≠ .outside ∧
      s.role c ∈ [.escaped, .quoted, .beginEscape, .closeQuote]) := by
  cases hq : s.quoting with
  | outside =>
    left
    exact ⟨rfl, by rw [role, hq]⟩
  | inside p =>
    right
    simp only [role, hq]
    split_ifs <;> simp
  | escaping p =>
    right
    simp [role, hq]

variable {s c} in
/-- A role that nothing inside quotes has. -/
lemma role_iff_plainRole {p : Role → Prop}
    (hp : ∀ r ∈ [Role.escaped, .quoted, .beginEscape, .closeQuote], ¬ p r) :
    p (s.role c) ↔ s.quoting = .outside ∧ p (s.plainRole c) := by
  rcases s.role_cases c with ⟨hq, hr⟩ | ⟨hq, hr⟩
  · rw [hr]
    simp [hq]
  · constructor
    · intro h
      exact absurd h (hp _ hr)
    · rintro ⟨ho, -⟩
      exact absurd ho hq

/-- The characters that have a role outside quotes which no other character has. -/
def soleRoles : List (Char × Role) :=
  [('(', .openGroup), (')', .closeGroup), ('|', .bar), ('"', .openQuote)]

lemma plainRole_eq_iff {d : Char} {r : Role} (h : (d, r) ∈ soleRoles) :
    s.plainRole c = r ↔ c = d := by
  simp only [soleRoles, List.mem_cons, Prod.mk.injEq, List.not_mem_nil, or_false] at h
  simp only [plainRole]
  rcases h with ⟨rfl, rfl⟩ | ⟨rfl, rfl⟩ | ⟨rfl, rfl⟩ | ⟨rfl, rfl⟩
  all_goals
    split
    case h_4 => split <;> simp
    all_goals simp_all

lemma plainRole_eq_bang_iff :
    s.plainRole c = .bang ↔ c = '!' ∧ s.pre = none ∧ s.word = "" := by
  simp only [plainRole]
  split
  case h_4 => by_cases hw : s.word = "" <;> cases s.pre <;> simp [hw]
  all_goals simp_all

lemma plainRole_ends_word_iff :
    s.plainRole c = .openGroup ∨ s.plainRole c = .blank ↔ c ∈ wordEnds := by
  simp only [plainRole, wordEnds]
  split
  case h_4 => split <;> simp
  all_goals simp_all

lemma plainRole_eq_operator_iff :
    s.plainRole c = .operator ↔
      c ∈ operatorChars ∧ (c = '!' → s.word ≠ "" ∨ s.pre ≠ none) := by
  simp only [plainRole, operatorChars]
  split
  case h_4 => by_cases hw : s.word = "" <;> cases s.pre <;> simp [hw]
  all_goals simp_all

lemma plainRole_eq_letter_iff : s.plainRole c = .letter ↔ c ∉ marks := by
  simp only [plainRole, marks, wordEnds, operatorChars]
  split
  case h_4 => split <;> simp
  all_goals simp_all

variable {s c} in
lemma role_eq_iff {d : Char} {r : Role} (h : (d, r) ∈ soleRoles) :
    s.role c = r ↔ s.quoting = .outside ∧ c = d := by
  have hr : ∀ q ∈ [Role.escaped, .quoted, .beginEscape, .closeQuote], ¬ q = r := by
    simp only [soleRoles, List.mem_cons, Prod.mk.injEq, List.not_mem_nil, or_false] at h
    rcases h with ⟨-, rfl⟩ | ⟨-, rfl⟩ | ⟨-, rfl⟩ | ⟨-, rfl⟩ <;> simp
  rw [role_iff_plainRole (p := (· = r)) hr, plainRole_eq_iff s c h]

variable {s c} in
lemma role_eq_openGroup_iff : s.role c = .openGroup ↔ s.quoting = .outside ∧ c = '(' :=
  role_eq_iff (by simp [soleRoles])

variable {s c} in
lemma role_eq_closeGroup_iff : s.role c = .closeGroup ↔ s.quoting = .outside ∧ c = ')' :=
  role_eq_iff (by simp [soleRoles])

variable {s c} in
lemma role_eq_bar_iff : s.role c = .bar ↔ s.quoting = .outside ∧ c = '|' :=
  role_eq_iff (by simp [soleRoles])

variable {s c} in
lemma role_eq_openQuote_iff : s.role c = .openQuote ↔ s.quoting = .outside ∧ c = '"' :=
  role_eq_iff (by simp [soleRoles])

variable {s c} in
/-- A `!` negates only where neither a word nor a filter prefix has begun. -/
lemma role_eq_bang_iff :
    s.role c = .bang ↔ s.quoting = .outside ∧ c = '!' ∧ s.pre = none ∧ s.word = "" := by
  rw [role_iff_plainRole (p := (· = .bang)) (by simp), plainRole_eq_bang_iff]

variable {s c} in
lemma role_ends_word_iff :
    s.role c = .openGroup ∨ s.role c = .blank ↔ s.quoting = .outside ∧ c ∈ wordEnds := by
  rw [role_iff_plainRole (p := fun r => r = .openGroup ∨ r = .blank) (by simp),
    plainRole_ends_word_iff]

variable {s c} in
/-- A `!` belongs to an operator only where a word or a filter prefix has begun. -/
lemma role_eq_operator_iff :
    s.role c = .operator ↔
      s.quoting = .outside ∧ c ∈ operatorChars ∧ (c = '!' → s.word ≠ "" ∨ s.pre ≠ none) := by
  rw [role_iff_plainRole (p := (· = .operator)) (by simp), plainRole_eq_operator_iff]

/-- An operator character joins the word, begins an operator or goes on with one. -/
lemma operator_cases :
    s.operator c = s.push c ∨
    (s.word ≠ "" ∧ s.pre = none ∧
      s.operator c = { s with word := "", pre := some ⟨s.word, String.singleton c⟩ }) ∨
    (∃ p, s.word = "" ∧ s.pre = some p ∧
      s.operator c = { s with pre := some { p with op := p.op.push c } }) := by
  cases hp : s.pre with
  | none =>
    by_cases hw : s.word = ""
    · left
      simp [operator, hp, hw]
    · right; left
      simp [operator, hp, hw]
  | some p =>
    by_cases hw : s.word = ""
    · right; right
      exact ⟨p, hw, rfl, by simp [operator, hp, hw]⟩
    · left
      simp [operator, hp, hw]

/-- An operator character changes nothing but the word and its filter prefix. -/
lemma exists_operator_eq : ∃ word pre, s.operator c = { s with word := word, pre := pre } := by
  rcases s.operator_cases c with ho | ⟨-, -, ho⟩ | ⟨p, -, -, ho⟩
  · exact ⟨_, _, ho⟩
  · exact ⟨_, _, ho⟩
  · exact ⟨_, _, ho⟩

/-! ### Words -/

/-- What the word makes with its filter prefix. -/
def bareLeaf : Term :=
  match s.pre with
  | none   => .name s.word
  | some p => .filter p.name (registry.lookup p.name) p.op s.word

/-- What the word makes with its filter prefix and its negation. -/
def leaf : Term := if s.negated.isSome then .neg (s.bareLeaf registry) else s.bareLeaf registry

/-- The terms of a group, the last one first, after a finished leaf was added. After a `|` the leaf
is joined to the last term, if there is one. -/
def joined (bar : Option Nat) (terms : List Term) (leaf : Term) : List Term :=
  match bar, terms with
  | some _, left :: rest => .or left leaf :: rest
  | _,      _            => leaf :: terms

/-- A leaf stands alone or is joined to the last term. -/
lemma joined_cases (bar : Option Nat) (terms : List Term) (leaf : Term) :
    joined bar terms leaf = leaf :: terms ∨
    (∃ left rest, terms = left :: rest ∧ joined bar terms leaf = .or left leaf :: rest) := by
  cases bar with
  | none => exact .inl rfl
  | some p =>
    cases terms with
    | nil => exact .inl rfl
    | cons left rest => exact .inr ⟨left, rest, rfl, rfl⟩

/-- The state after a finished leaf was added to the innermost group. -/
def attached (leaf : Term) : Scanner :=
  { s with word := "", pre := none, negated := none, bar := none,
           terms := joined s.bar s.terms leaf }

/-- The state after the word was finished, if there is one. -/
def completed : Scanner := if s.word = "" then s else s.attached (s.leaf registry)

lemma leaf?_eq : s.leaf? registry = if s.word = "" then none else some (s.leaf registry) := by
  simp only [leaf?, String.isEmpty_iff]
  rfl

lemma completed_of_word_eq_empty (h : s.word = "") : s.completed registry = s := if_pos h

lemma completed_of_word_ne_empty (h : s.word ≠ "") :
    s.completed registry = s.attached (s.leaf registry) := if_neg h

lemma attach_lenient (leaf : Term) : s.attach .lenient leaf = .ok (s.attached leaf) := by
  rw [attach, attached]
  cases s.bar with
  | none => rfl
  | some p => cases s.terms <;> rfl

lemma completeWord_lenient :
    s.completeWord .lenient registry = .ok (s.completed registry) := by
  rw [completeWord, leaf?_eq, completed]
  split_ifs
  · rfl
  · exact s.attach_lenient _

lemma quoting_completed : (s.completed registry).quoting = s.quoting := by
  rw [completed]
  split_ifs <;> rfl

lemma enclosing_completed : (s.completed registry).enclosing = s.enclosing := by
  rw [completed]
  split_ifs <;> rfl

lemma word_completed : (s.completed registry).word = "" := by
  by_cases hw : s.word = ""
  · rw [completed_of_word_eq_empty registry s hw, hw]
  · rw [completed_of_word_ne_empty registry s hw, attached]

/-! ### Steps and runs -/

/-- The state after a character. -/
def advance : Scanner :=
  match s.role c with
  | .escaped     => { s.push c with quoting := s.quoting.resumed }
  | .quoted      => s.push c
  | .beginEscape => { s with quoting := s.quoting.escaped }
  | .openQuote   => { s with quoting := .inside position }
  | .closeQuote  => { s with quoting := .outside }
  | .openGroup   => (s.completed registry).openGroup position
  | .closeGroup  => s.closeInnermost
  | .bar         => { s with bar := some position }
  | .bang        => { s with negated := some position }
  | .operator    => s.operator c
  | .blank       => s.completed registry
  | .letter      => s.push c

/-- The state after several characters, the first of them at a position. -/
def after (s : Scanner) (position : Nat) : List Char → Scanner
  | []      => s
  | c :: cs => (s.advance registry position c).after (position + 1) cs

@[simp] lemma after_nil : s.after registry position [] = s := rfl

@[simp] lemma after_cons :
    s.after registry position (c :: cs) =
      (s.advance registry position c).after registry (position + 1) cs := rfl

lemma after_append (u v : List Char) :
    s.after registry position (u ++ v) =
      (s.after registry position u).after registry (position + u.length) v := by
  induction u generalizing s position with
  | nil => rfl
  | cons c u ih =>
    rw [List.cons_append, after_cons, after_cons, ih, List.length_cons, Nat.add_assoc,
      Nat.add_comm 1]

lemma after_concat :
    s.after registry position (cs ++ [c]) =
      (s.after registry position cs).advance registry (position + cs.length) c := by
  rw [after_append, after_cons, after_nil]

variable {s} in
lemma advance_open (hq : s.quoting = .outside) :
    s.advance registry position '(' = (s.completed registry).openGroup position := by
  simp only [advance, role, plainRole, hq]

variable {s} in
lemma advance_close (hq : s.quoting = .outside) :
    s.advance registry position ')' = s.closeInnermost := by
  simp only [advance, role, plainRole, hq]

variable {s} in
lemma advance_bar (hq : s.quoting = .outside) :
    s.advance registry position '|' = { s with bar := some position } := by
  simp only [advance, role, plainRole, hq]

variable {s} in
lemma advance_blank (hq : s.quoting = .outside) :
    s.advance registry position ' ' = s.completed registry := by
  simp only [advance, role, plainRole, hq]

/-- Only a quote, a backslash inside quotes and what stands behind one change the quoting. -/
lemma quoting_advance :
    (s.advance registry position c).quoting =
      match s.role c with
      | .escaped     => s.quoting.resumed
      | .beginEscape => s.quoting.escaped
      | .openQuote   => .inside position
      | .closeQuote  => .outside
      | _            => s.quoting := by
  rw [advance]
  cases s.role c
  case openGroup => exact s.quoting_completed registry
  case closeGroup =>
    rw [closeInnermost]
    cases s.enclosing <;> rfl
  case operator =>
    obtain ⟨word, pre, ho⟩ := s.exists_operator_eq c
    rw [ho]
  case blank => exact s.quoting_completed registry
  all_goals rfl

/-- Only a parenthesis opens or closes a group. -/
lemma enclosing_advance :
    (s.advance registry position c).enclosing =
      match s.role c with
      | .openGroup  => ⟨position, (s.completed registry).terms⟩ :: s.enclosing
      | .closeGroup => s.enclosing.tail
      | _           => s.enclosing := by
  rw [advance]
  cases s.role c
  case openGroup => simp only [openGroup, enclosing_completed]
  case closeGroup =>
    rw [closeInnermost]
    cases s.enclosing <;> rfl
  case operator =>
    obtain ⟨word, pre, ho⟩ := s.exists_operator_eq c
    rw [ho]
  case blank => exact s.enclosing_completed registry
  all_goals rfl

lemma step_lenient : s.step .lenient registry position c = .ok (s.advance registry position c) := by
  rw [step, advance]
  cases s.role c
  case openGroup => rw [completeWord_lenient, Except.map]
  case blank => exact s.completeWord_lenient registry
  all_goals rfl

lemma run_lenient :
    s.run .lenient registry position cs = .ok (s.after registry position cs) := by
  induction cs generalizing s position with
  | nil => rfl
  | cons c cs ih =>
    rw [run, step_lenient, after_cons]
    exact ih _ _

lemma push_append_ofList (word : String) :
    word.push c ++ String.ofList cs = word ++ String.ofList (c :: cs) := by
  rw [String.push_eq_append, String.append_assoc, String.ofList_cons]

variable {cs} in
/-- Characters that are only letters outside quotes join the word, in both modes. -/
lemma run_plain {mode : Mode} {word : String} {pre : Option FilterPrefix} {negated bar : Option Nat}
    {terms : List Term} {enclosing : List Enclosing} (h : ∀ c ∈ cs, c ∉ marks) :
    run mode registry ⟨word, pre, .outside, negated, bar, terms, enclosing⟩ position cs =
      .ok ⟨word ++ String.ofList cs, pre, .outside, negated, bar, terms, enclosing⟩ := by
  induction cs generalizing word position with
  | nil => simp [run]
  | cons c cs ih =>
    have hr : role ⟨word, pre, .outside, negated, bar, terms, enclosing⟩ c = .letter :=
      (plainRole_eq_letter_iff _ c).mpr (h c List.mem_cons_self)
    simp only [run, step, hr, push]
    rw [ih _ fun d hd => h d (List.mem_cons_of_mem c hd), push_append_ofList]

variable {s cs} in
lemma after_plain (hq : s.quoting = .outside) (h : ∀ c ∈ cs, c ∉ marks) :
    s.after registry position cs = { s with word := s.word ++ String.ofList cs } := by
  obtain ⟨word, pre, quoting, negated, bar, terms, enclosing⟩ := s
  obtain rfl : quoting = .outside := hq
  apply Except.ok.inj
  rw [← run_lenient, run_plain registry position h]

lemma finish_lenient (length : Nat) :
    s.finish .lenient registry length = .ok (.group (s.completed registry).rootTerms) := by
  simp only [finish, completeWord_lenient, Except.map]

end Scanner

/-! ### Queries -/

/-- A lenient scan has a result for every query. -/
lemma scan_lenient (registry : Registry) (cs : List Char) :
    scan .lenient registry cs =
      .ok (.group ((Scanner.start.after registry 0 cs).completed registry).rootTerms) := by
  simp only [scan, Scanner.run_lenient, Scanner.finish_lenient]

lemma parse_eq (registry : Registry) (query : String) :
    parse registry query =
      .group ((Scanner.start.after registry 0 query.toList).completed registry).rootTerms := by
  simp only [parse, scan_lenient]

end CardSearch.Query
