import CardSearch.Proofs.Query.Strict

/-!
# What waits when a group is opened

A `!`, a `|` or a filter prefix may still wait for its word when a group is opened. In a query that
strict mode accepts, a `|` never does: the group has no term for its left side, and a word would
have to be finished before the group can be closed. Everything else that waits is taken by the
first word that is finished after the parenthesis, inside the group.
-/

namespace CardSearch.Query

namespace Scanner

variable {registry : Registry} {s o w : Scanner} {position : Nat} {c : Char} {cs : List Char}

/-! ### A bar -/

/-- A `|` waits in an inner group that has no term. -/
structure Stuck (s : Scanner) : Prop where
  bar : s.bar ≠ none
  terms : s.terms = []
  enclosing : s.enclosing ≠ []

lemma Stuck.word_eq_empty (h : s.Stuck) (hl : ¬ s.LacksLeft) : s.word = "" := by
  by_contra hw
  exact hl ⟨hw, h.bar, h.terms⟩

lemma Stuck.advance (h : s.Stuck) (hf : s.stepFault? position c = none) :
    (s.advance registry position c).Stuck := by
  rw [stepFault?_eq_none_iff, ← role_eq_closeGroup_iff, ← role_ends_word_iff] at hf
  obtain ⟨hclose, hleft⟩ := hf
  rw [Scanner.advance]
  cases hr : s.role c
  case openGroup =>
    have hw := h.word_eq_empty (hleft (.inl hr))
    rw [completed_of_word_eq_empty registry s hw]
    exact ⟨h.bar, rfl, List.cons_ne_nil _ _⟩
  case closeGroup => exact absurd (.inr (.inr (.inr (.inl h.bar)))) (hclose hr)
  case bar => exact ⟨Option.some_ne_none _, h.terms, h.enclosing⟩
  case operator =>
    obtain ⟨word, pre, ho⟩ := s.exists_operator_eq c
    rw [ho]
    exact ⟨h.bar, h.terms, h.enclosing⟩
  case blank =>
    have hw := h.word_eq_empty (hleft (.inr hr))
    rwa [completed_of_word_eq_empty registry s hw]
  all_goals exact ⟨h.bar, h.terms, h.enclosing⟩

lemma Stuck.after (h : s.Stuck) (hf : s.Faultless registry position cs) :
    (s.after registry position cs).Stuck := by
  induction cs generalizing s position with
  | nil => exact h
  | cons c cs ih => exact ih (h.advance hf.1) hf.2

lemma Stuck.finishFault?_ne_none (h : s.Stuck) (length : Nat) :
    s.finishFault? registry length ≠ none := by
  rw [ne_eq, finishFault?_eq_none_iff]
  rintro ⟨-, hleft, hopen⟩
  rw [completed_of_word_eq_empty registry s (h.word_eq_empty hleft)] at hopen
  exact hopen (.inl h.enclosing)

/-- Nothing is wrong with the rest of a query from a parenthesis on only where no `|` waits. -/
lemma bar_eq_none_at_open (hq : s.quoting = .outside)
    (hf : s.Faultless registry position ('(' :: cs)) {length : Nat}
    (hend : (s.after registry position ('(' :: cs)).finishFault? registry length = none) :
    (s.completed registry).bar = none := by
  obtain ⟨-, hrest⟩ := hf
  rw [advance_open registry position hq] at hrest
  rw [after_cons, advance_open registry position hq] at hend
  by_contra hbar
  have hstuck : ((s.completed registry).openGroup position).Stuck :=
    ⟨hbar, rfl, List.cons_ne_nil _ _⟩
  exact (hstuck.after hrest).finishFault?_ne_none length hend

/-! ### A negation or a filter prefix -/

/-- A negation or a filter prefix waits for a word. -/
def Waits (s : Scanner) : Prop := s.negated ≠ none ∨ s.pre ≠ none

/-- No word was finished between `o` and `w`, no group of `o` was closed, and what waits in `o`
still waits in `w`. A filter prefix may have got a longer operator. -/
structure Carries (o w : Scanner) : Prop where
  enclosing : o.enclosing <:+ w.enclosing
  terms : w.terms = []
  negated : o.negated ≠ none → w.negated ≠ none
  pre : ∀ p ∈ o.pre, ∃ p' ∈ w.pre, p'.name = p.name ∧ p.op.toList <+: p'.op.toList

lemma Carries.waits (h : Carries o w) (hw : o.Waits) : w.Waits := by
  rcases hw with hn | hp
  · exact .inl (h.negated hn)
  · obtain ⟨p, hp⟩ := Option.ne_none_iff_exists'.mp hp
    obtain ⟨p', hp', -⟩ := h.pre p hp
    right
    rw [Option.mem_def.mp hp']
    exact Option.some_ne_none p'

lemma Carries.operator (h : Carries o w) (c : Char) : Carries o (w.operator c) := by
  rcases w.operator_cases c with ho | ⟨-, hnone, ho⟩ | ⟨q, -, hq, ho⟩ <;> rw [ho]
  · exact ⟨h.enclosing, h.terms, h.negated, h.pre⟩
  · refine ⟨h.enclosing, h.terms, h.negated, fun p hp => ?_⟩
    obtain ⟨p', hp', -⟩ := h.pre p hp
    rw [hnone] at hp'
    cases hp'
  · refine ⟨h.enclosing, h.terms, h.negated, fun p hp => ?_⟩
    obtain ⟨p', hp', hname, hop⟩ := h.pre p hp
    obtain rfl : q = p' := Option.some.inj (hq.symm.trans hp')
    refine ⟨_, rfl, hname, ?_⟩
    rw [String.toList_push]
    exact hop.trans (List.prefix_append _ _)

/-- As long as no word is finished, what waits goes on waiting: a group cannot be closed. -/
lemma Carries.advance (h : Carries o w) (ho : o.Waits) (hf : w.stepFault? position c = none)
    (hend : w.role c = .openGroup ∨ w.role c = .blank → w.word = "") :
    Carries o (w.advance registry position c) := by
  rw [stepFault?_eq_none_iff, ← role_eq_closeGroup_iff] at hf
  rw [Scanner.advance]
  cases hr : w.role c
  case openGroup =>
    rw [completed_of_word_eq_empty registry w (hend (.inl hr))]
    exact ⟨h.enclosing.trans (List.suffix_cons _ _), rfl, h.negated, h.pre⟩
  case closeGroup =>
    refine absurd ?_ (hf.1 hr)
    rcases h.waits ho with hn | hp
    · exact .inr (.inr (.inl hn))
    · exact .inr (.inl hp)
  case bang => exact ⟨h.enclosing, h.terms, fun _ => Option.some_ne_none _, h.pre⟩
  case operator => exact h.operator c
  case blank => rwa [completed_of_word_eq_empty registry w (hend (.inr hr))]
  all_goals exact ⟨h.enclosing, h.terms, h.negated, h.pre⟩

/-- What waits in an inner group is taken by a word, since the query cannot end before. -/
lemma Carries.exists_word (h : Carries o w) (ho : o.Waits) (hne : o.enclosing ≠ [])
    (hf : w.Faultless registry position cs) {length : Nat}
    (hend : (w.after registry position cs).finishFault? registry length = none) :
    ∃ x c y, cs = x ++ c :: y ∧ (w.after registry position x).quoting = .outside ∧
      c ∈ wordEnds ∧ (w.after registry position x).word ≠ "" ∧
      Carries o (w.after registry position x) := by
  induction cs generalizing w position with
  | nil =>
    rw [after_nil, finishFault?_eq_none_iff] at hend
    refine absurd (.inl fun he => hne ?_) hend.2.2
    have hsuffix := h.enclosing
    rw [← w.enclosing_completed registry] at hsuffix
    rwa [he, List.suffix_nil] at hsuffix
  | cons c cs ih =>
    by_cases hword : (w.role c = .openGroup ∨ w.role c = .blank) ∧ w.word ≠ ""
    · obtain ⟨hq, hc⟩ := role_ends_word_iff.mp hword.1
      exact ⟨[], c, cs, rfl, hq, hc, hword.2, h⟩
    · rw [not_and, not_not] at hword
      obtain ⟨x, d, y, rfl, hx⟩ := ih (h.advance ho hf.1 hword) hf.2 hend
      exact ⟨c :: x, d, y, rfl, hx⟩

end Scanner

/-- When a group is opened in a query that strict mode accepts, no `|` waits. Where a negation or a
filter prefix waits, the first word that is finished afterwards takes it, inside the group. -/
theorem waits_at_open {registry : Registry} {query : String} {t : Term}
    (h : parseStrict registry query = .ok t) {u v : List Char} {s s' : Scanner}
    (hq : query.toList = u ++ '(' :: v) (hs : Reaches registry u s) (ho : s.quoting = .outside)
    (hc : s.completeWord .lenient registry = .ok s') :
    s'.bar = none ∧
      (s'.Waits → ∃ x c y w, v = x ++ c :: y ∧ Reaches registry (u ++ '(' :: x) w ∧
        w.quoting = .outside ∧ c ∈ Scanner.wordEnds ∧ w.word ≠ "" ∧
        (s'.openGroup u.length).Carries w) := by
  obtain ⟨⟨hfaultless, hfinish⟩, -⟩ := (parseStrict_eq_ok_iff registry query t).mp h
  obtain rfl := reaches_iff.mp hs
  rw [Scanner.completeWord_lenient, Except.ok.injEq] at hc
  rw [hq, Scanner.faultless_append, Nat.zero_add] at hfaultless
  rw [hq, Scanner.after_append, Nat.zero_add] at hfinish
  obtain ⟨-, hfaultless⟩ := hfaultless
  constructor
  · rw [← hc]
    exact Scanner.bar_eq_none_at_open ho hfaultless hfinish
  · intro hw
    obtain ⟨-, hrest⟩ := hfaultless
    rw [Scanner.after_cons] at hfinish
    rw [Scanner.advance_open registry _ ho, hc] at hrest hfinish
    have hinner : (s'.openGroup u.length).enclosing ≠ [] := List.cons_ne_nil _ _
    have hcarries : (s'.openGroup u.length).Carries (s'.openGroup u.length) :=
      ⟨List.suffix_rfl, rfl, id, fun p hp => ⟨p, hp, rfl, List.prefix_rfl⟩⟩
    obtain ⟨x, c, y, hv, hx⟩ := hcarries.exists_word hw hinner hrest hfinish
    refine ⟨x, c, y, _, hv, reaches_iff.mpr ?_, hx⟩
    rw [Scanner.after_append, Nat.zero_add, Scanner.after_cons,
      Scanner.advance_open registry _ ho, hc]

/-- The negation before the parenthesis is taken by the first word of the inner group. -/
theorem waits_at_open_negated :
    ∃ t s s', parseStrict Registry.builtin "x !((a ) b )" = .ok t ∧
      Reaches Registry.builtin ['x', ' ', '!'] s ∧ s.quoting = .outside ∧
      s.completeWord .lenient Registry.builtin = .ok s' ∧ s'.Waits ∧ s'.bar = none ∧
      ∃ x c y w, ['(', 'a', ' ', ')', ' ', 'b', ' ', ')'] = x ++ c :: y ∧
        Reaches Registry.builtin (['x', ' ', '!'] ++ '(' :: x) w ∧ w.quoting = .outside ∧
        c ∈ Scanner.wordEnds ∧ w.word ≠ "" ∧ (s'.openGroup 3).Carries w := by
  have hnegated : Scanner.Waits
      ⟨"", none, .outside, some 2, none, [.name "x"], []⟩ := .inl (Option.some_ne_none 2)
  have hstrict : parseStrict Registry.builtin "x !((a ) b )" =
      .ok (.group [.name "x", .group [.group [.neg (.name "a")], .name "b"]]) := rfl
  have h := waits_at_open hstrict (u := ['x', ' ', '!']) rfl rfl rfl rfl
  exact ⟨_, _, _, hstrict, rfl, rfl, rfl, hnegated, h.1, h.2 hnegated⟩

/-- Strict mode accepts a negation and a filter prefix that stand before a group, and gives them to
a word inside it. -/
theorem negation_and_prefix_cross_open :
    (parseStrict Registry.builtin "!(a b )" =
        .ok (.group [.group [.neg (.name "a"), .name "b"]]) ∧
      ∃ s s', Reaches Registry.builtin ['!'] s ∧ s.quoting = .outside ∧
        s.completeWord .lenient Registry.builtin = .ok s' ∧ s'.negated ≠ none) ∧
    (parseStrict Registry.builtin "r:(a )" =
        .ok (.group [.group [.filter "r" (Registry.builtin.lookup "r") ":" "a"]]) ∧
      ∃ s s', Reaches Registry.builtin ['r', ':'] s ∧ s.quoting = .outside ∧
        s.completeWord .lenient Registry.builtin = .ok s' ∧ s'.pre ≠ none) := by
  constructor
  · exact ⟨rfl, _, _, rfl, rfl, rfl, Option.some_ne_none 0⟩
  · exact ⟨rfl, ⟨"", some ⟨"r", ":"⟩, .outside, none, none, [], []⟩, _, rfl, rfl, rfl,
      Option.some_ne_none _⟩

end CardSearch.Query
