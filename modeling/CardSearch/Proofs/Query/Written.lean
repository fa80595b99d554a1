import CardSearch.Proofs.Query.Shape

/-!
# Trees as queries

Every well-shaped tree can be typed. `write` puts the texts of its leaves between quotes and a
space after every part, and both modes read the tree back from what is written.

The proof follows the tree. Between two parts the scanner is `idle`, and reading a part from there
adds it to the terms of the innermost group and leaves everything else as it was.
-/

namespace CardSearch.Query

/-! ### Writing -/

/-- A character between quotes. -/
def escape (c : Char) : List Char := if c = '"' ∨ c = '\\' then ['\\', c] else [c]

/-- A text between quotes. -/
def quote (text : String) : List Char := '"' :: (text.toList.flatMap escape ++ ['"'])

mutual
/-- A term as it is typed. -/
def written : Term → List Char
  | .name word          => quote word
  | .neg t              => '!' :: written t
  | .filter a _ op word => quote a ++ (op.toList ++ quote word)
  | .or l r             => written l ++ (' ' :: '|' :: ' ' :: written r)
  | .group ts           => '(' :: (writtenAll ts ++ [')'])

/-- Terms as they are typed, a space after each. -/
def writtenAll : List Term → List Char
  | []      => []
  | t :: ts => written t ++ (' ' :: writtenAll ts)
end

/-- A tree as a query: the parts of its root, a space after each. -/
def write : Term → String
  | .group ts => String.ofList (writtenAll ts)
  | t         => String.ofList (written t)

namespace Scanner

variable {mode : Mode} {registry : Registry} {word : String} {pre : Option FilterPrefix}
  {negated bar : Option Nat} {terms : List Term} {enclosing : List Enclosing}

/-! ### Runs in parts -/

lemma run_append {s s₁ s₂ : Scanner} {position : Nat} {u v : List Char}
    (hu : s.run mode registry position u = .ok s₁)
    (hv : s₁.run mode registry (position + u.length) v = .ok s₂) :
    s.run mode registry position (u ++ v) = .ok s₂ := by
  induction u generalizing s position with
  | nil =>
    cases hu
    exact hv
  | cons c u ih =>
    rw [List.cons_append, run]
    rw [run] at hu
    cases hc : s.step mode registry position c with
    | error e =>
      rw [hc] at hu
      cases hu
    | ok s' =>
      rw [hc] at hu
      refine ih hu ?_
      rwa [Nat.add_assoc, Nat.add_comm 1]

lemma run_cons {s s₁ s₂ : Scanner} {position : Nat} {c : Char} {cs : List Char}
    (hc : s.step mode registry position c = .ok s₁)
    (hcs : s₁.run mode registry (position + 1) cs = .ok s₂) :
    s.run mode registry position (c :: cs) = .ok s₂ := by
  rw [run, hc]
  exact hcs

lemma completeWord_eq_ok {s : Scanner} (h : ¬ s.LacksLeft) :
    s.completeWord mode registry = .ok (s.completed registry) := by
  cases mode with
  | lenient => exact s.completeWord_lenient registry
  | strict => rw [completeWord_strict, s.joinFault?_eq_none_iff.mpr h, Option.elim_none]

/-! ### Quotes -/

lemma run_escape (opened position : Nat) (c : Char) :
    run mode registry ⟨word, pre, .inside opened, negated, bar, terms, enclosing⟩ position
        (escape c) =
      .ok ⟨word.push c, pre, .inside opened, negated, bar, terms, enclosing⟩ := by
  rw [escape]
  split_ifs with h
  · simp [run, step, role, push, Quoting.escaped, Quoting.resumed]
  · rw [not_or] at h
    simp [run, step, role, push, h.1, h.2]

lemma run_escape_all (opened position : Nat) (cs : List Char) :
    run mode registry ⟨word, pre, .inside opened, negated, bar, terms, enclosing⟩ position
        (cs.flatMap escape) =
      .ok ⟨word ++ String.ofList cs, pre, .inside opened, negated, bar, terms, enclosing⟩ := by
  induction cs generalizing word position with
  | nil => simp [run]
  | cons c cs ih =>
    rw [List.flatMap_cons]
    refine run_append (run_escape opened position c) ?_
    rw [ih, push_append_ofList]

lemma run_quote (position : Nat) (text : String) :
    run mode registry ⟨"", pre, .outside, negated, bar, terms, enclosing⟩ position (quote text) =
      .ok ⟨text, pre, .outside, negated, bar, terms, enclosing⟩ := by
  have hopen : step mode registry ⟨"", pre, .outside, negated, bar, terms, enclosing⟩ position
      '"' = .ok ⟨"", pre, .inside position, negated, bar, terms, enclosing⟩ := by
    simp [step, role, plainRole]
  refine run_cons hopen (run_append (run_escape_all _ _ _) ?_)
  simp [run, step, role]

/-! ### Operators -/

lemma step_operator {s : Scanner} (position : Nat) {c : Char} (hq : s.quoting = .outside)
    (hc : c ∈ operatorChars) (hs : s.word ≠ "" ∨ s.pre ≠ none) :
    s.step mode registry position c = .ok (s.operator c) := by
  have hr : s.role c = .operator := role_eq_operator_iff.mpr ⟨hq, hc, fun _ => hs⟩
  simp [step, hr]

lemma run_operator_rest {a op : String} (position : Nat) {cs : List Char}
    (hcs : ∀ c ∈ cs, c ∈ operatorChars) :
    run mode registry ⟨"", some ⟨a, op⟩, .outside, negated, bar, terms, enclosing⟩ position cs =
      .ok ⟨"", some ⟨a, op ++ String.ofList cs⟩, .outside, negated, bar, terms, enclosing⟩ := by
  induction cs generalizing op position with
  | nil => simp [run]
  | cons c cs ih =>
    have hc : c ∈ operatorChars := hcs c List.mem_cons_self
    refine run_cons (step_operator position rfl hc (.inr (by simp))) ?_
    rw [show operator ⟨"", some ⟨a, op⟩, .outside, negated, bar, terms, enclosing⟩ c =
      ⟨"", some ⟨a, op.push c⟩, .outside, negated, bar, terms, enclosing⟩ by simp [operator],
      ih _ fun d hd => hcs d (List.mem_cons_of_mem _ hd), push_append_ofList]

lemma run_operator {a op : String} (position : Nat) (ha : a ≠ "") (ho : op ≠ "")
    (hcs : ∀ c ∈ op.toList, c ∈ operatorChars) :
    run mode registry ⟨a, none, .outside, negated, bar, terms, enclosing⟩ position op.toList =
      .ok ⟨"", some ⟨a, op⟩, .outside, negated, bar, terms, enclosing⟩ := by
  cases hop : op.toList with
  | nil => exact absurd (String.toList_eq_nil_iff.mp hop) ho
  | cons c cs =>
    rw [hop] at hcs
    have hc : c ∈ operatorChars := hcs c List.mem_cons_self
    have hcs : ∀ d ∈ cs, d ∈ operatorChars := fun d hd => hcs d (List.mem_cons_of_mem _ hd)
    refine run_cons (step_operator position rfl hc (.inl ha)) ?_
    rw [show operator ⟨a, none, .outside, negated, bar, terms, enclosing⟩ c =
      ⟨"", some ⟨a, String.singleton c⟩, .outside, negated, bar, terms, enclosing⟩ by
        simp [operator, ha], run_operator_rest _ hcs, ← String.ofList_cons, ← hop,
      String.ofList_toList]

/-! ### Between parts -/

/-- Nothing is being typed. -/
def idle (terms : List Term) (enclosing : List Enclosing) : Scanner :=
  ⟨"", none, .outside, none, none, terms, enclosing⟩

lemma step_blank {s : Scanner} (position : Nat) (hq : s.quoting = .outside)
    (hl : ¬ s.LacksLeft) : s.step mode registry position ' ' = .ok (s.completed registry) := by
  have hr : s.role ' ' = .blank := by simp [role, plainRole, hq]
  simp only [step, hr]
  exact completeWord_eq_ok hl

lemma step_open (position : Nat) :
    step mode registry (idle terms enclosing) position '(' =
      .ok (idle [] (⟨position, terms⟩ :: enclosing)) := by
  have hr : (idle terms enclosing).role '(' = .openGroup := by simp [role, plainRole, idle]
  have hc : (idle terms enclosing).completeWord mode registry = .ok (idle terms enclosing) :=
    completeWord_eq_ok fun h => h.1 rfl
  simp only [step, hr, hc]
  rfl

lemma step_close {before : List Term} {opened : Nat} (position : Nat) :
    step mode registry (idle terms (⟨opened, before⟩ :: enclosing)) position ')' =
      .ok (idle (.group terms.reverse :: before) enclosing) := by
  have hr : (idle terms (⟨opened, before⟩ :: enclosing)).role ')' = .closeGroup := by
    simp [role, plainRole, idle]
  simp only [step, hr]
  cases mode <;> rfl

/-- All that is being typed is a word, and finishing it leaves nothing. -/
structure Ends (registry : Registry) (s : Scanner) (terms : List Term)
    (enclosing : List Enclosing) : Prop where
  quoting : s.quoting = .outside
  left : ¬ s.LacksLeft
  completed : s.completed registry = idle terms enclosing

lemma ends_idle (registry : Registry) (terms : List Term) (enclosing : List Enclosing) :
    Ends registry (idle terms enclosing) terms enclosing :=
  ⟨rfl, fun h => h.1 rfl, completed_of_word_eq_empty _ _ rfl⟩

lemma Ends.step_blank {s : Scanner} (h : Ends registry s terms enclosing) (position : Nat) :
    s.step mode registry position ' ' = .ok (idle terms enclosing) := by
  rw [Scanner.step_blank position h.quoting h.left, h.completed]

/-- Where nothing waits but a filter prefix, the parts of the root make the tree. -/
lemma finish_of_completed {s : Scanner} (hq : s.quoting = .outside) (hl : ¬ s.LacksLeft)
    (hc : s.completed registry = ⟨"", pre, .outside, none, none, terms, []⟩) (length : Nat) :
    s.finish mode registry length = .ok (.group terms.reverse) := by
  cases mode with
  | lenient =>
    rw [finish_lenient, hc]
    rfl
  | strict =>
    have hopen : ¬ (s.completed registry).LeftOpen := by simp [hc, LeftOpen]
    have hfault : s.finishFault? registry length = none :=
      (finishFault?_eq_none_iff registry s length).mpr ⟨hq, hl, hopen⟩
    rw [finish_strict, hfault, hc]
    rfl

lemma Ends.finish {s : Scanner} (h : Ends registry s terms []) (length : Nat) :
    s.finish mode registry length = .ok (.group terms.reverse) :=
  finish_of_completed h.quoting h.left h.completed length

lemma run_bar (position : Nat) {t : Term} :
    run mode registry (idle (t :: terms) enclosing) position ['|', ' '] =
      .ok ⟨"", none, .outside, none, some position, t :: terms, enclosing⟩ := by
  have hbar : step mode registry (idle (t :: terms) enclosing) position '|' =
      .ok ⟨"", none, .outside, none, some position, t :: terms, enclosing⟩ := by
    simp [step, role, plainRole, idle]
  refine run_cons hbar (run_cons (step_blank _ rfl fun h => h.1 rfl) ?_)
  rw [completed_of_word_eq_empty _ _ rfl]
  rfl

/-! ### Leaves and operands -/

/-- Some characters type a leaf: read from where nothing is being typed, they leave a word that
makes the leaf with its filter prefix. -/
def Types (registry : Registry) (cs : List Char) (t : Term) : Prop :=
  ∀ (mode : Mode) (negated bar : Option Nat) (terms : List Term) (enclosing : List Enclosing)
    (position : Nat), ∃ word pre, word ≠ "" ∧
      run mode registry ⟨"", none, .outside, negated, bar, terms, enclosing⟩ position cs =
        .ok ⟨word, pre, .outside, negated, bar, terms, enclosing⟩ ∧
      bareLeaf registry ⟨word, pre, .outside, negated, bar, terms, enclosing⟩ = t

lemma types_written {t : Term} (h : Leaf registry t) : Types registry (written t) t := by
  intro mode negated bar terms enclosing position
  cases h with
  | @name word hw =>
    refine ⟨word, none, hw, ?_, rfl⟩
    rw [written, run_quote]
  | @filter a op word ha ho hc hw =>
    refine ⟨word, some ⟨a, op⟩, hw, ?_, rfl⟩
    rw [written]
    exact run_append (run_quote position a)
      (run_append (run_operator _ ha ho hc) (run_quote _ word))

/-- A leaf that is typed is added to the innermost group. -/
lemma Types.exists_run {cs : List Char} {t : Term} (h : Types registry cs t)
    (hb : bar = none ∨ terms ≠ []) (position : Nat) :
    ∃ s, run mode registry ⟨"", none, .outside, negated, bar, terms, enclosing⟩ position cs =
        .ok s ∧
      Ends registry s (joined bar terms (if negated.isSome then .neg t else t)) enclosing := by
  obtain ⟨word, pre, hw, hrun, hleaf⟩ := h mode negated bar terms enclosing position
  refine ⟨_, hrun, rfl, fun hl => hb.elim hl.2.1 fun hts => hts hl.2.2, ?_⟩
  rw [completed_of_word_ne_empty _ _ hw]
  simp [attached, leaf, hleaf, idle]

lemma Types.exists_run_neg {cs : List Char} {t : Term} (h : Types registry cs t)
    (hb : bar = none ∨ terms ≠ []) (position : Nat) :
    ∃ s, run mode registry ⟨"", none, .outside, none, bar, terms, enclosing⟩ position
        ('!' :: cs) = .ok s ∧
      Ends registry s (joined bar terms (.neg t)) enclosing := by
  have hbang : step mode registry ⟨"", none, .outside, none, bar, terms, enclosing⟩ position
      '!' = .ok ⟨"", none, .outside, some position, bar, terms, enclosing⟩ := by
    simp [step, role, plainRole]
  have hleaf : ∃ s, run mode registry ⟨"", none, .outside, some position, bar, terms, enclosing⟩
      (position + 1) cs = .ok s ∧ Ends registry s (joined bar terms (.neg t)) enclosing :=
    h.exists_run hb (position + 1)
  obtain ⟨s, hrun, hends⟩ := hleaf
  exact ⟨s, run_cons hbang hrun, hends⟩

/-- An operand with a space after it is added to the innermost group. -/
lemma run_operand {t : Term} (h : Operand registry t) (hb : bar = none ∨ terms ≠ [])
    (position : Nat) :
    run mode registry ⟨"", none, .outside, none, bar, terms, enclosing⟩ position
        (written t ++ [' ']) =
      .ok (idle (joined bar terms t) enclosing) := by
  cases h with
  | leaf h =>
    obtain ⟨s, hrun, hends⟩ := (types_written h).exists_run hb position
    exact run_append hrun (run_cons (hends.step_blank _) rfl)
  | neg h =>
    obtain ⟨s, hrun, hends⟩ := (types_written h).exists_run_neg hb position
    exact run_append hrun (run_cons (hends.step_blank _) rfl)

/-! ### Parts -/

/-- The parts of a group are added to it one after the other. -/
lemma run_writtenAll {ts : List Term} (position : Nat)
    (h : ∀ t ∈ ts, ∀ terms position,
      run mode registry (idle terms enclosing) position (written t ++ [' ']) =
        .ok (idle (t :: terms) enclosing)) :
    run mode registry (idle terms enclosing) position (writtenAll ts) =
      .ok (idle (ts.reverse ++ terms) enclosing) := by
  induction ts generalizing terms position with
  | nil => simp [writtenAll, run]
  | cons t ts ih =>
    rw [writtenAll, ← List.singleton_append, ← List.append_assoc]
    refine run_append (h t List.mem_cons_self terms position) ?_
    rw [ih _ fun u hu => h u (List.mem_cons_of_mem _ hu)]
    simp

/-- A part with a space after it is added to the innermost group. -/
lemma run_part {t : Term} (h : Part registry t) (position : Nat) :
    run mode registry (idle terms enclosing) position (written t ++ [' ']) =
      .ok (idle (t :: terms) enclosing) := by
  induction h generalizing terms enclosing position with
  | operand h => exact run_operand h (.inl rfl) position
  | @or l r hl hr ih =>
    -- the left side is read as a part of its own and then joined to the operand
    have hlist : written (.or l r) ++ [' '] =
        (written l ++ [' ']) ++ (['|', ' '] ++ (written r ++ [' '])) := by simp [written]
    rw [hlist]
    exact run_append (ih position)
      (run_append (run_bar _) (run_operand hr (.inr (List.cons_ne_nil _ _)) _))
  | @group ts _ ih =>
    rw [written, List.cons_append, List.append_assoc, List.singleton_append]
    refine run_cons (step_open position) (run_append
      (run_writtenAll _ fun t ht _ p => ih t ht p) ?_)
    rw [List.append_nil]
    refine run_cons (step_close _) (run_cons ((ends_idle registry _ _).step_blank _) ?_)
    rw [List.reverse_reverse]
    rfl

lemma finish_idle (ts : List Term) (length : Nat) :
    (idle ts []).finish mode registry length = .ok (.group ts.reverse) :=
  (ends_idle registry ts []).finish length

end Scanner

lemma scan_writtenAll (mode : Mode) {registry : Registry} {ts : List Term}
    (h : ∀ t ∈ ts, Part registry t) : scan mode registry (writtenAll ts) = .ok (.group ts) := by
  have hrun : Scanner.start.run mode registry 0 (writtenAll ts) =
      .ok (Scanner.idle (ts.reverse ++ []) []) :=
    Scanner.run_writtenAll 0 fun t ht _ p => Scanner.run_part (h t ht) p
  rw [scan, hrun]
  simp only [Scanner.finish_idle, List.append_nil, List.reverse_reverse]

/-- Every well-shaped tree is read back from the query that it is written as, in both modes. -/
theorem parse_write {registry : Registry} {t : Term} (h : WellShaped registry t) :
    parse registry (write t) = t ∧ parseStrict registry (write t) = .ok t := by
  cases h with
  | root h =>
    rw [parse, parseStrict, write, String.toList_ofList, scan_writtenAll .lenient h,
      scan_writtenAll .strict h]
    exact ⟨rfl, rfl⟩

/-- Quotes, parentheses and blanks in the texts of a tree come back with it. -/
theorem parse_write_quoted :
    ∃ t, WellShaped Registry.builtin t ∧
      write t = "(\"a\\\"b\" ) | !\"r\"!=\"(c | d)\" " ∧
      parse Registry.builtin (write t) = t ∧ parseStrict Registry.builtin (write t) = .ok t := by
  have h : WellShaped Registry.builtin (.group [.or (.group [.name "a\"b"])
      (.neg (.filter "r" (Registry.builtin.lookup "r") "!=" "(c | d)"))]) := by
    refine .root (List.forall_mem_singleton.mpr (.or (.group ?_) (.neg ?_)))
    · exact List.forall_mem_singleton.mpr (.operand (.leaf (.name (by decide))))
    · exact .filter (by decide) (by decide) (by simp [Scanner.operatorChars]) (by decide)
  exact ⟨_, h, rfl, parse_write h⟩

end CardSearch.Query
