import CardSearch.Proofs.Query.Strict

/-!
# The shape of a tree

The trees that the scanner builds: no text in them is empty, a filter term holds what its name
resolves to, only a leaf is negated, and disjunctions nest to the left. `WellShaped` says so of a
tree, and `Scanner.Shaped` of everything that a scanner keeps; the second is an invariant of
reading.
-/

namespace CardSearch.Query

/-- A bare word or a filter term. -/
inductive Leaf (registry : Registry) : Term → Prop where
  | name {word : String} (hw : word ≠ "") : Leaf registry (.name word)
  | filter {a op word : String} (ha : a ≠ "") (ho : op ≠ "")
      (hc : ∀ c ∈ op.toList, c ∈ Scanner.operatorChars) (hw : word ≠ "") :
      Leaf registry (.filter a (registry.lookup a) op word)

/-- A leaf, or its negation. -/
inductive Operand (registry : Registry) : Term → Prop where
  | leaf {t : Term} (h : Leaf registry t) : Operand registry t
  | neg {t : Term} (h : Leaf registry t) : Operand registry (.neg t)

/-- A part of a group. Only operands stand on the right of a disjunction. -/
inductive Part (registry : Registry) : Term → Prop where
  | operand {t : Term} (h : Operand registry t) : Part registry t
  | or {l r : Term} (hl : Part registry l) (hr : Operand registry r) : Part registry (.or l r)
  | group {ts : List Term} (h : ∀ t ∈ ts, Part registry t) : Part registry (.group ts)

/-- A whole tree. -/
inductive WellShaped (registry : Registry) : Term → Prop where
  | root {ts : List Term} (h : ∀ t ∈ ts, Part registry t) : WellShaped registry (.group ts)

@[simp] lemma part_neg_iff {registry : Registry} {t : Term} :
    Part registry (.neg t) ↔ Leaf registry t := by
  constructor
  · intro h
    cases h with
    | operand h =>
      cases h with
      | leaf h => cases h
      | neg h => exact h
  · intro h
    exact .operand (.neg h)

@[simp] lemma part_or_iff {registry : Registry} {l r : Term} :
    Part registry (.or l r) ↔ Part registry l ∧ Operand registry r := by
  constructor
  · intro h
    cases h with
    | operand h =>
      cases h with
      | leaf h => cases h
    | or hl hr => exact ⟨hl, hr⟩
  · rintro ⟨hl, hr⟩
    exact .or hl hr

@[simp] lemma part_group_iff {registry : Registry} {ts : List Term} :
    Part registry (.group ts) ↔ ∀ t ∈ ts, Part registry t := by
  constructor
  · intro h
    cases h with
    | operand h =>
      cases h with
      | leaf h => cases h
    | group h => exact h
  · intro h
    exact .group h

/-- A filter name and an operator that were typed. -/
structure FilterPrefix.Typed (p : FilterPrefix) : Prop where
  name : p.name ≠ ""
  op : p.op ≠ ""
  chars : ∀ c ∈ p.op.toList, c ∈ Scanner.operatorChars

namespace Scanner

variable {registry : Registry} {s : Scanner} {c : Char}

/-- Everything that is kept is in shape: the filter prefix, and the terms of all open groups. -/
structure Shaped (registry : Registry) (s : Scanner) : Prop where
  pre : ∀ p ∈ s.pre, p.Typed
  terms : ∀ t ∈ s.terms, Part registry t
  enclosing : ∀ e ∈ s.enclosing, ∀ t ∈ e.before, Part registry t

lemma shaped_start (registry : Registry) : start.Shaped registry where
  pre := by simp [start]
  terms := by simp [start]
  enclosing := by simp [start]

/-! ### Words -/

lemma Shaped.leaf_bareLeaf (h : s.Shaped registry) (hw : s.word ≠ "") :
    Leaf registry (s.bareLeaf registry) := by
  rw [bareLeaf]
  cases hp : s.pre with
  | none => exact .name hw
  | some p =>
    obtain ⟨ha, ho, hc⟩ := h.pre p hp
    exact .filter ha ho hc hw

lemma Shaped.operand_leaf (h : s.Shaped registry) (hw : s.word ≠ "") :
    Operand registry (s.leaf registry) := by
  rw [leaf]
  split_ifs
  · exact .neg (h.leaf_bareLeaf hw)
  · exact .leaf (h.leaf_bareLeaf hw)

lemma part_of_mem_joined {bar : Option Nat} {terms : List Term} {leaf t : Term}
    (hts : ∀ t ∈ terms, Part registry t) (hl : Operand registry leaf)
    (ht : t ∈ joined bar terms leaf) : Part registry t := by
  rcases joined_cases bar terms leaf with hj | ⟨left, rest, rfl, hj⟩
  · rw [hj, List.mem_cons] at ht
    rcases ht with rfl | ht
    · exact .operand hl
    · exact hts t ht
  · rw [hj, List.mem_cons] at ht
    rcases ht with rfl | ht
    · exact .or (hts left List.mem_cons_self) hl
    · exact hts t (List.mem_cons_of_mem _ ht)

lemma Shaped.completed (h : s.Shaped registry) : (s.completed registry).Shaped registry := by
  by_cases hw : s.word = ""
  · rwa [completed_of_word_eq_empty registry s hw]
  · rw [completed_of_word_ne_empty registry s hw]
    refine ⟨?_, ?_, h.enclosing⟩
    · simp [attached]
    · intro t ht
      exact part_of_mem_joined h.terms (h.operand_leaf hw) ht

/-! ### Steps -/

lemma Shaped.operator (h : s.Shaped registry) (hc : c ∈ operatorChars) :
    (s.operator c).Shaped registry := by
  rcases s.operator_cases c with ho | ⟨hw, -, ho⟩ | ⟨p, -, hp, ho⟩ <;> rw [ho]
  · exact ⟨h.pre, h.terms, h.enclosing⟩
  · refine ⟨?_, h.terms, h.enclosing⟩
    rintro _ ⟨⟩
    exact ⟨hw, by simp, by simpa using hc⟩
  · refine ⟨?_, h.terms, h.enclosing⟩
    rintro _ ⟨⟩
    refine ⟨(h.pre p hp).name, by simp, fun d hd => ?_⟩
    rw [String.toList_push, List.mem_append, List.mem_singleton] at hd
    rcases hd with hd | rfl
    · exact (h.pre p hp).chars d hd
    · exact hc

lemma Shaped.openGroup (h : s.Shaped registry) (position : Nat) :
    (s.openGroup position).Shaped registry where
  pre := h.pre
  terms := by simp [Scanner.openGroup]
  enclosing := by
    intro e he
    rcases List.mem_cons.mp he with rfl | he
    · exact h.terms
    · exact h.enclosing e he

lemma Shaped.closeInnermost (h : s.Shaped registry) : s.closeInnermost.Shaped registry := by
  rw [Scanner.closeInnermost]
  cases he : s.enclosing with
  | nil => exact ⟨h.pre, h.terms, by simp⟩
  | cons e es =>
    refine ⟨h.pre, ?_, fun d hd => h.enclosing d (he ▸ List.mem_cons_of_mem _ hd)⟩
    intro t ht
    rcases List.mem_cons.mp ht with rfl | ht
    · exact .group fun t ht => h.terms t (List.mem_reverse.mp ht)
    · exact h.enclosing e (he ▸ List.mem_cons_self) t ht

lemma Shaped.advance (h : s.Shaped registry) (position : Nat) (c : Char) :
    (s.advance registry position c).Shaped registry := by
  rw [Scanner.advance]
  cases hr : s.role c
  case openGroup => exact h.completed.openGroup position
  case closeGroup => exact h.closeInnermost
  case operator => exact h.operator (role_eq_operator_iff.mp hr).2.1
  case blank => exact h.completed
  -- the rest touches only the word, the quoting and the marks
  all_goals exact ⟨h.pre, h.terms, h.enclosing⟩

/-! ### Runs -/

lemma Shaped.after (h : s.Shaped registry) (position : Nat) (cs : List Char) :
    (s.after registry position cs).Shaped registry := by
  induction cs generalizing s position with
  | nil => exact h
  | cons c cs ih => exact ih (h.advance position c) (position + 1)

lemma Shaped.part_of_mem_rootTerms (h : s.Shaped registry) {t : Term} (ht : t ∈ s.rootTerms) :
    Part registry t := by
  rw [rootTerms] at ht
  cases he : s.enclosing.getLast? with
  | none =>
    rw [he] at ht
    exact h.terms t (List.mem_reverse.mp ht)
  | some e =>
    rw [he] at ht
    exact h.enclosing e (List.mem_of_getLast? he) t (List.mem_reverse.mp ht)

end Scanner

lemma wellShaped_parse (registry : Registry) (query : String) :
    WellShaped registry (parse registry query) := by
  rw [parse_eq]
  have h := ((Scanner.shaped_start registry).after 0 query.toList).completed
  exact .root fun t ht => h.part_of_mem_rootTerms ht

/-- Every query is read leniently, and whatever either mode reads is well-shaped. -/
theorem scan_lenient_wellShaped (registry : Registry) (query : String) :
    scan .lenient registry query.toList = .ok (parse registry query) ∧
      WellShaped registry (parse registry query) ∧
      ∀ t, parseStrict registry query = .ok t → WellShaped registry t := by
  refine ⟨by rw [scan_lenient, parse_eq], wellShaped_parse registry query, ?_⟩
  intro t ht
  rw [((parseStrict_eq_ok_iff registry query t).mp ht).2]
  exact wellShaped_parse registry query

/-- A query that strict mode reads, and the shape of its tree. -/
theorem scan_lenient_wellShaped_strict :
    ∃ t, parseStrict Registry.builtin "(a !r:\"b c\" ) | x" = .ok t ∧
      WellShaped Registry.builtin t := by
  have h : parseStrict Registry.builtin "(a !r:\"b c\" ) | x" =
      .ok (.group [.or (.group [.name "a",
        .neg (.filter "r" (Registry.builtin.lookup "r") ":" "b c")]) (.name "x")]) := rfl
  exact ⟨_, h, (scan_lenient_wellShaped _ _).2.2 _ h⟩

end CardSearch.Query
