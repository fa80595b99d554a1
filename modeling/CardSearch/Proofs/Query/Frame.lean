import CardSearch.Proofs.Query.Strict

/-!
# Reading above other terms

A scan that starts from nothing reads the same above terms that are already there and inside groups
that are already open: it takes back only what it has put there itself. `Over` relates a scan from
nothing to one above `below` and inside `around`; positions, which no scan looks at, may differ.
-/

namespace CardSearch.Query

/-- The quoting without the position of its quote. -/
def Quoting.unplaced : Quoting → Quoting
  | .outside    => .outside
  | .inside _   => .inside 0
  | .escaping _ => .escaping 0

lemma Quoting.unplaced_eq_outside_iff {q : Quoting} : q.unplaced = .outside ↔ q = .outside := by
  cases q <;> simp [unplaced]

lemma Quoting.unplaced_escaped (q : Quoting) : q.escaped.unplaced = q.unplaced.escaped := by
  cases q <;> rfl

lemma Quoting.unplaced_resumed (q : Quoting) : q.resumed.unplaced = q.unplaced.resumed := by
  cases q <;> rfl

namespace Scanner

variable {registry : Registry} {below : List Term} {around : List Enclosing} {s s' : Scanner}
  {position position' : Nat} {c : Char} {cs : List Char}

/-! ### What is being typed -/

/-- The same is being typed in two scanners. -/
structure SameTyping (s s' : Scanner) : Prop where
  word : s'.word = s.word
  pre : s'.pre = s.pre
  quoting : s'.quoting.unplaced = s.quoting.unplaced

lemma SameTyping.role (h : SameTyping s s') (c : Char) : s'.role c = s.role c := by
  have hq := h.quoting
  rw [Scanner.role, Scanner.role]
  cases hs : s.quoting <;> cases hs' : s'.quoting <;> rw [hs, hs'] at hq <;>
    simp only [Quoting.unplaced, reduceCtorEq] at hq ⊢
  -- outside quotes the role depends on what was typed before
  simp only [plainRole, h.word, h.pre]

lemma SameTyping.quoting_eq_outside (h : SameTyping s s') (hq : s.quoting = .outside) :
    s'.quoting = .outside := by
  rw [← Quoting.unplaced_eq_outside_iff, h.quoting, hq]
  rfl

lemma SameTyping.push (h : SameTyping s s') (c : Char) : SameTyping (s.push c) (s'.push c) :=
  ⟨by rw [Scanner.push, Scanner.push, h.word], h.pre, h.quoting⟩

lemma SameTyping.operator (h : SameTyping s s') (c : Char) :
    SameTyping (s.operator c) (s'.operator c) := by
  rw [Scanner.operator, Scanner.operator, h.pre, h.word]
  cases hp : s.pre with
  | none =>
    dsimp only
    split_ifs
    · exact h.push c
    · exact ⟨rfl, rfl, h.quoting⟩
  | some p =>
    dsimp only
    split_ifs
    · exact ⟨rfl, rfl, h.quoting⟩
    · exact h.push c

lemma SameTyping.completed (h : SameTyping s s') (registry registry' : Registry) :
    SameTyping (s.completed registry) (s'.completed registry') := by
  rw [Scanner.completed, Scanner.completed, h.word]
  split_ifs
  · exact h
  · exact ⟨rfl, rfl, h.quoting⟩

lemma SameTyping.closeInnermost (h : SameTyping s s') :
    SameTyping s.closeInnermost s'.closeInnermost := by
  have hs (t : Scanner) : t.closeInnermost.word = "" ∧ t.closeInnermost.pre = t.pre ∧
      t.closeInnermost.quoting = t.quoting := by
    rw [Scanner.closeInnermost]
    cases t.enclosing <;> exact ⟨rfl, rfl, rfl⟩
  obtain ⟨hw, hp, hq⟩ := hs s
  obtain ⟨hw', hp', hq'⟩ := hs s'
  exact ⟨hw'.trans hw.symm, by rw [hp', hp, h.pre], by rw [hq', hq, h.quoting]⟩

/-- What is being typed depends neither on the registry nor on the terms that were read. -/
lemma SameTyping.advance (h : SameTyping s s') (registry registry' : Registry)
    (position position' : Nat) (c : Char) :
    SameTyping (s.advance registry position c) (s'.advance registry' position' c) := by
  rw [Scanner.advance, Scanner.advance, h.role]
  have hq := h.quoting
  cases hr : s.role c
  case escaped =>
    refine ⟨(h.push c).word, h.pre, ?_⟩
    change s'.quoting.resumed.unplaced = s.quoting.resumed.unplaced
    rw [Quoting.unplaced_resumed, Quoting.unplaced_resumed, hq]
  case quoted => exact h.push c
  case beginEscape =>
    refine ⟨h.word, h.pre, ?_⟩
    change s'.quoting.escaped.unplaced = s.quoting.escaped.unplaced
    rw [Quoting.unplaced_escaped, Quoting.unplaced_escaped, hq]
  case openQuote => exact ⟨h.word, h.pre, rfl⟩
  case closeQuote => exact ⟨h.word, h.pre, rfl⟩
  case openGroup =>
    have hc := h.completed registry registry'
    exact ⟨hc.word, hc.pre, hc.quoting⟩
  case closeGroup => exact h.closeInnermost
  case bar => exact ⟨h.word, h.pre, hq⟩
  case bang => exact ⟨h.word, h.pre, hq⟩
  case operator => exact h.operator c
  case blank => exact h.completed registry registry'
  case letter => exact h.push c

/-! ### The groups that are open -/

/-- Two stacks of groups, each given by the terms of its innermost group and the groups around it,
that differ only below: the outermost group of the first has `below` before its terms in the
second, and stands inside `around`. -/
inductive Stacked (below : List Term) (around : List Enclosing) :
    List Term → List Enclosing → List Term → List Enclosing → Prop where
  | root (ts : List Term) : Stacked below around ts [] (ts ++ below) around
  | inner (ts : List Term) {e e' : Enclosing} {es es' : List Enclosing}
      (h : Stacked below around e.before es e'.before es') :
      Stacked below around ts (e :: es) ts (e' :: es')

section

variable {ts ts' : List Term} {e : Enclosing} {es es' : List Enclosing}

lemma Stacked.cons (h : Stacked below around ts es ts' es') (t : Term) :
    Stacked below around (t :: ts) es (t :: ts') es' := by
  cases h with
  | root ts => exact .root (t :: ts)
  | inner ts h => exact .inner (t :: ts) h

lemma Stacked.joined {bar bar' : Option Nat} (h : Stacked below around ts es ts' es')
    (hb : bar'.isSome = bar.isSome) (hl : bar ≠ none → ts = [] → below = []) (leaf : Term) :
    Stacked below around (joined bar ts leaf) es (joined bar' ts' leaf) es' := by
  cases hbar : bar with
  | none =>
    obtain rfl : bar' = none := by simpa [hbar] using hb
    exact h.cons leaf
  | some p =>
    obtain ⟨p', rfl⟩ : ∃ p', bar' = some p' := Option.isSome_iff_exists.mp (by simp [hb, hbar])
    cases h with
    | root ts =>
      cases ts with
      | nil =>
        rw [hl (by simp [hbar]) rfl]
        exact .root [leaf]
      | cons left ts => exact .root (.or left leaf :: ts)
    | inner ts h =>
      cases ts with
      | nil => exact .inner [leaf] h
      | cons left ts => exact .inner (.or left leaf :: ts) h

lemma Stacked.exists_cons (h : Stacked below around ts (e :: es) ts' es') :
    ∃ e' es'', es' = e' :: es'' ∧ ts' = ts ∧ Stacked below around e.before es e'.before es'' := by
  cases h with
  | inner ts h => exact ⟨_, _, rfl, rfl, h⟩

lemma Stacked.terms_ne_nil (h : Stacked below around ts es ts' es') (hts : ts ≠ []) :
    ts' ≠ [] := by
  cases h with
  | root ts => exact List.append_ne_nil_of_left_ne_nil hts below
  | inner ts h => exact hts

lemma Stacked.enclosing_ne_nil (h : Stacked below around ts es ts' es') (hes : es ≠ []) :
    es' ≠ [] := by
  cases h with
  | root ts => exact absurd rfl hes
  | inner ts h => exact List.cons_ne_nil _ _

end

/-! ### One scanner over others -/

/-- `s'` is `s` above the terms `below` and inside the groups `around`, up to positions. -/
structure Over (below : List Term) (around : List Enclosing) (s s' : Scanner) : Prop
    extends SameTyping s s' where
  negated : s'.negated.isSome = s.negated.isSome
  bar : s'.bar.isSome = s.bar.isSome
  stack : Stacked below around s.terms s.enclosing s'.terms s'.enclosing

lemma Over.of_enclosing_eq_nil (h : Over below around s s') (he : s.enclosing = []) :
    s'.terms = s.terms ++ below ∧ s'.enclosing = around := by
  have hstack := h.stack
  rw [he] at hstack
  generalize s'.terms = ts, s'.enclosing = es at hstack ⊢
  cases hstack
  exact ⟨rfl, rfl⟩

lemma Over.leaf (h : Over below around s s') (registry : Registry) :
    s'.leaf registry = s.leaf registry := by
  have hbare : s'.bareLeaf registry = s.bareLeaf registry := by
    rw [bareLeaf, bareLeaf, h.pre, h.word]
  rw [Scanner.leaf, Scanner.leaf, h.negated, hbare]

lemma Over.completed (h : Over below around s s') (registry : Registry)
    (hl : s.LacksLeft → below = []) :
    Over below around (s.completed registry) (s'.completed registry) where
  toSameTyping := h.toSameTyping.completed registry registry
  negated := by
    rw [Scanner.completed, Scanner.completed, h.word]
    split_ifs
    · exact h.negated
    · rfl
  bar := by
    rw [Scanner.completed, Scanner.completed, h.word]
    split_ifs
    · exact h.bar
    · rfl
  stack := by
    rw [Scanner.completed, Scanner.completed, h.word, h.leaf registry]
    split_ifs with hw
    · exact h.stack
    · exact h.stack.joined h.bar (fun hb hts => hl ⟨hw, hb, hts⟩) _

lemma Over.openGroup (h : Over below around s s') (position position' : Nat) :
    Over below around (s.openGroup position) (s'.openGroup position') :=
  ⟨⟨h.word, h.pre, h.quoting⟩, h.negated, h.bar, .inner [] h.stack⟩

lemma Over.closeInnermost (h : Over below around s s') (he : s.enclosing ≠ []) :
    Over below around s.closeInnermost s'.closeInnermost := by
  obtain ⟨e, es, hes⟩ := List.exists_cons_of_ne_nil he
  have hstack := h.stack
  rw [hes] at hstack
  obtain ⟨e', es', hes', hts, hbefore⟩ := hstack.exists_cons
  have hclose : s.closeInnermost =
      { s with word := "", terms := .group s.terms.reverse :: e.before, enclosing := es } := by
    rw [Scanner.closeInnermost, hes]
  have hclose' : s'.closeInnermost =
      { s' with word := "", terms := .group s.terms.reverse :: e'.before, enclosing := es' } := by
    rw [Scanner.closeInnermost, hes', hts]
  rw [hclose, hclose']
  exact ⟨⟨rfl, h.pre, h.quoting⟩, h.negated, h.bar, hbefore.cons _⟩

/-- What a character does stays above. -/
lemma Over.advance (h : Over below around s s')
    (hc : s.role c = .closeGroup → s.enclosing ≠ [])
    (hl : s.role c = .openGroup ∨ s.role c = .blank → s.LacksLeft → below = [])
    (position position' : Nat) :
    Over below around (s.advance registry position c) (s'.advance registry position' c) := by
  have hsame := h.toSameTyping.advance registry registry position position' c
  rw [Scanner.advance, Scanner.advance, h.role] at hsame ⊢
  cases hr : s.role c <;> rw [hr] at hsame
  case openGroup => exact (h.completed registry (hl (.inl hr))).openGroup position position'
  case closeGroup => exact h.closeInnermost (hc hr)
  case blank => exact h.completed registry (hl (.inr hr))
  case bar => exact ⟨hsame, h.negated, rfl, h.stack⟩
  case bang => exact ⟨hsame, rfl, h.bar, h.stack⟩
  case operator =>
    obtain ⟨word, pre, ho⟩ := s.exists_operator_eq c
    obtain ⟨word', pre', ho'⟩ := s'.exists_operator_eq c
    dsimp only at hsame ⊢
    rw [ho, ho'] at hsame ⊢
    exact ⟨hsame, h.negated, h.bar, h.stack⟩
  all_goals exact ⟨hsame, h.negated, h.bar, h.stack⟩

/-! ### Runs -/

/-- Reading some characters takes back nothing of `below` and closes no group around. -/
def StaysAbove (below : List Term) (registry : Registry) (s : Scanner) (position : Nat) :
    List Char → Prop
  | []      => True
  | c :: cs =>
    (s.role c = .closeGroup → s.enclosing ≠ []) ∧
      (s.role c = .openGroup ∨ s.role c = .blank → s.LacksLeft → below = []) ∧
      (s.advance registry position c).StaysAbove below registry (position + 1) cs

lemma Faultless.staysAbove (h : s.Faultless registry position cs) (below : List Term) :
    s.StaysAbove below registry position cs := by
  induction cs generalizing s position with
  | nil => trivial
  | cons c cs ih =>
    obtain ⟨hf, hrest⟩ := h
    rw [stepFault?_eq_none_iff, ← role_eq_closeGroup_iff, ← role_ends_word_iff] at hf
    refine ⟨fun hr he => hf.1 hr ?_, fun hr hl => absurd hl (hf.2 hr), ih hrest⟩
    exact .inr (.inr (.inr (.inr he)))

lemma Over.after (h : Over below around s s') (hs : s.StaysAbove below registry position cs)
    (position' : Nat) :
    Over below around (s.after registry position cs) (s'.after registry position' cs) := by
  induction cs generalizing s s' position position' with
  | nil => exact h
  | cons c cs ih =>
    obtain ⟨hc, hl, hrest⟩ := hs
    exact ih (h.advance hc hl position position') hrest (position' + 1)

lemma Over.not_closesBadly (h : Over below around s s') (hs : ¬ s.ClosesBadly) :
    ¬ s'.ClosesBadly := by
  simp only [ClosesBadly, not_or, not_not] at hs ⊢
  obtain ⟨hw, hp, hn, hb, he⟩ := hs
  refine ⟨h.word.trans hw, h.pre.trans hp, ?_, ?_, h.stack.enclosing_ne_nil he⟩
  · simpa [hn] using h.negated
  · simpa [hb] using h.bar

lemma Over.not_lacksLeft (h : Over below around s s') (hs : ¬ s.LacksLeft) : ¬ s'.LacksLeft := by
  rintro ⟨hw, hb, hts⟩
  refine hs ⟨h.word ▸ hw, fun hbar => hb ?_, ?_⟩
  · simpa [hbar] using h.bar
  · by_contra hne
    exact h.stack.terms_ne_nil hne hts

/-- Where a scan from nothing finds no fault, the scan above finds none either. -/
lemma Over.faultless (h : Over below around s s') (hs : s.Faultless registry position cs)
    (position' : Nat) : s'.Faultless registry position' cs := by
  induction cs generalizing s s' position position' with
  | nil => trivial
  | cons c cs ih =>
    obtain ⟨hc, hl, -⟩ := hs.staysAbove below
    refine ⟨?_, ih (h.advance hc hl position position') hs.2 (position' + 1)⟩
    have hf := hs.1
    rw [stepFault?_eq_none_iff, ← role_eq_closeGroup_iff, ← role_ends_word_iff] at hf ⊢
    rw [h.role]
    exact ⟨fun hr => h.not_closesBadly (hf.1 hr), fun hr => h.not_lacksLeft (hf.2 hr)⟩

end Scanner

end CardSearch.Query
