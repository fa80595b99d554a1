import CardSearch.Proofs.Query.Nesting

/-!
# What errors point at

A strict scan that fails gives the position of a character. It has remembered that position since
it read the character: of the `!` and the `|` that wait for a word, of the quote that is open and of
the parentheses whose groups are open. Whatever was written in between, the character still stands
where the error says, outside quotes. Which character it is, the message says: no two faults share
one.
-/

namespace CardSearch

/-! ### Messages -/

namespace SyntaxFault

/-- The faults whose message is always the same. -/
def worded : List SyntaxFault :=
  [.bangBeforeClose, .barBeforeClose, .unmatchedClose, .noLeftOperand, .danglingEscape,
    .unterminatedQuote, .unclosedGroup, .noRightOperand, .noNegated]

lemma message_worded_inj :
    ∀ f ∈ worded, ∀ g ∈ worded, f.message = g.message → f = g := by decide

lemma message_unfinishedTerm (text : String) :
    (unfinishedTerm text).message = "unfinished term '" ++ (text ++ "' before ')'") := by
  rw [← String.append_assoc]
  rfl

lemma message_worded_ne (text : String) :
    ∀ f ∈ worded, f.message ≠ (unfinishedTerm text).message := by
  intro f hf heq
  have hstart : ∀ g ∈ worded, g.message.toList.take 3 ≠ ['u', 'n', 'f'] := by decide +kernel
  apply hstart f hf
  rw [heq, message_unfinishedTerm, String.toList_append]
  rfl

/-- The message tells the fault. -/
lemma message_inj {f g : SyntaxFault} (h : f.message = g.message) : f = g := by
  have hcases (f : SyntaxFault) : (∃ text, f = .unfinishedTerm text) ∨ f ∈ worded := by
    cases f <;> simp [worded]
  rcases hcases f with ⟨text, rfl⟩ | hf <;> rcases hcases g with ⟨text', rfl⟩ | hg
  · rw [message_unfinishedTerm, message_unfinishedTerm, String.append_right_inj,
      String.append_left_inj] at h
    rw [h]
  · exact absurd h.symm (message_worded_ne text g hg)
  · exact absurd h (message_worded_ne text' f hf)
  · exact message_worded_inj f hf g hg h

end SyntaxFault

namespace Query

/-! ### What stands at a position -/

variable {registry : Registry} {cs : List Char} {p : Nat} {c : Char}

lemma Unquoted.append (h : Unquoted registry cs p c) (v : List Char) :
    Unquoted registry (cs ++ v) p c := by
  obtain ⟨u, w, s, rfl, hp, hs⟩ := h
  exact ⟨u, w ++ v, s, by simp, hp, hs⟩

lemma Unquoted.lt_length (h : Unquoted registry cs p c) : p < cs.length := by
  obtain ⟨u, w, -, rfl, rfl, -⟩ := h
  simp

/-- A quote stands at a position, and every character after it is inside quotes. -/
structure OpensSpan (registry : Registry) (cs : List Char) (p : Nat) : Prop where
  quote : Unquoted registry cs p '"'
  inside : ∀ u s, u <+: cs → p < u.length → Reaches registry u s → s.quoting ≠ .outside

/-- A query ends with a backslash inside quotes that is not escaped itself. -/
def EndsInEscape (registry : Registry) (cs : List Char) : Prop :=
  ∃ u s p, cs = u ++ ['\\'] ∧ Reaches registry u s ∧ s.quoting = .inside p

/-- What stands where an error points. -/
def PointsAt (registry : Registry) (cs : List Char) (e : SyntaxError) : Prop :=
  match e.fault with
  | .danglingEscape    => e.position = cs.length ∧ EndsInEscape registry cs
  | .unfinishedTerm _  => Unquoted registry cs e.position ')'
  | .bangBeforeClose   => Unquoted registry cs e.position ')'
  | .barBeforeClose    => Unquoted registry cs e.position ')'
  | .unmatchedClose    => Unquoted registry cs e.position ')'
  | .noLeftOperand     => Unquoted registry cs e.position '|'
  | .noRightOperand    => Unquoted registry cs e.position '|'
  | .noNegated         => Unquoted registry cs e.position '!'
  | .unterminatedQuote => OpensSpan registry cs e.position
  | .unclosedGroup     => IsLeast {p | Unclosed registry cs p} e.position

/-- Only the backslash that escapes nothing has no character to point at. -/
lemma PointsAt.lt_length {e : SyntaxError} (h : PointsAt registry cs e)
    (he : e.fault ≠ .danglingEscape) : e.position < cs.length := by
  obtain ⟨p, fault⟩ := e
  cases fault
  case danglingEscape => exact absurd rfl he
  case unterminatedQuote => exact h.quote.lt_length
  case unclosedGroup => exact h.1.opens.lt_length
  all_goals exact Unquoted.lt_length h

namespace Scanner

variable {s : Scanner}

lemma unquoted_concat (ho : (start.after registry 0 cs).quoting = .outside) :
    Unquoted registry (cs ++ [c]) cs.length c := unquoted_iff.mpr ⟨cs, [], rfl, rfl, ho⟩

/-! ### Quotes -/

/-- A span goes on as long as the next character does not end it. -/
lemma opensSpan_concat (h : OpensSpan registry cs p)
    (hq : ((start.after registry 0 cs).advance registry cs.length c).quoting ≠ .outside) :
    OpensSpan registry (cs ++ [c]) p where
  quote := h.quote.append [c]
  inside u s hu hp hs := by
    rcases List.prefix_concat_iff.mp hu with rfl | hu
    · obtain rfl := reaches_iff.mp hs
      rwa [after_concat, Nat.zero_add]
    · exact h.inside u s hu hp hs

/-- Outside quotes only a quote begins a span. -/
lemma quoting_advance_of_outside (registry : Registry) (position : Nat) (c : Char)
    (ho : s.quoting = .outside) :
    (s.advance registry position c).quoting = if c = '"' then .inside position else .outside := by
  rw [quoting_advance]
  split_ifs with hc
  · rw [role_eq_openQuote_iff.mpr ⟨ho, hc⟩]
  · cases hr : s.role c
    case openQuote => exact absurd (role_eq_openQuote_iff.mp hr).2 hc
    case escaped => simp only [ho, Quoting.resumed]
    case beginEscape => simp only [ho, Quoting.escaped]
    case closeQuote => rfl
    all_goals exact ho

lemma quoting_advance_of_inside (registry : Registry) (position : Nat) (c : Char)
    (hq : s.quoting = .inside p) :
    (s.advance registry position c).quoting =
      if c = '\\' then .escaping p else if c = '"' then .outside else .inside p := by
  simp only [quoting_advance, role, hq]
  split_ifs <;> rfl

lemma quoting_advance_of_escaping (registry : Registry) (position : Nat) (c : Char)
    (hq : s.quoting = .escaping p) : (s.advance registry position c).quoting = .inside p := by
  simp only [quoting_advance, role, hq, Quoting.resumed]

/-- The quote that a quoting remembers, and after a backslash that escapes, the backslash. -/
def QuotePlaced (registry : Registry) (cs : List Char) : Quoting → Prop
  | .outside    => True
  | .inside p   => OpensSpan registry cs p
  | .escaping p => OpensSpan registry cs p ∧ EndsInEscape registry cs

lemma quotePlaced_after (registry : Registry) (cs : List Char) :
    QuotePlaced registry cs (start.after registry 0 cs).quoting := by
  induction cs using List.reverseRecOn with
  | nil => trivial
  | append_singleton cs c ih =>
    rw [after_concat, Nat.zero_add]
    cases hq : (start.after registry 0 cs).quoting with
    | outside =>
      have hnext := quoting_advance_of_outside registry cs.length c hq
      split_ifs at hnext with hc <;> rw [hnext]
      · subst hc
        refine ⟨unquoted_concat hq, fun u s hu hp hs => ?_⟩
        rcases List.prefix_concat_iff.mp hu with rfl | hu
        · obtain rfl := reaches_iff.mp hs
          simp [after_concat, hnext]
        · exact absurd hu.length_le (Nat.not_le_of_lt hp)
      · trivial
    | inside p =>
      rw [hq] at ih
      have hspan : OpensSpan registry cs p := ih
      have hnext := quoting_advance_of_inside registry cs.length c hq
      split_ifs at hnext with hb hc <;> rw [hnext]
      · refine ⟨opensSpan_concat hspan (by simp [hnext]), cs, _, p, ?_, reaches_iff.mpr rfl, hq⟩
        rw [hb]
      · trivial
      · exact opensSpan_concat hspan (by simp [hnext])
    | escaping p =>
      rw [hq] at ih
      have hspan : OpensSpan registry cs p := ih.1
      have hnext := quoting_advance_of_escaping registry cs.length c hq
      rw [hnext]
      exact opensSpan_concat hspan (by simp [hnext])

/-! ### Marks that wait for a word -/

/-- The `!` and the `|` that wait are where they are remembered. -/
structure MarksPlaced (registry : Registry) (cs : List Char) (s : Scanner) : Prop where
  negated : ∀ p ∈ s.negated, Unquoted registry cs p '!'
  bar : ∀ p ∈ s.bar, Unquoted registry cs p '|'

lemma MarksPlaced.append (h : MarksPlaced registry cs s) (v : List Char) :
    MarksPlaced registry (cs ++ v) s :=
  ⟨fun p hp => (h.negated p hp).append v, fun p hp => (h.bar p hp).append v⟩

lemma MarksPlaced.completed (h : MarksPlaced registry cs s) :
    MarksPlaced registry cs (s.completed registry) := by
  rw [Scanner.completed]
  split_ifs
  · exact h
  · exact ⟨by simp [attached], by simp [attached]⟩

lemma marksPlaced_after (registry : Registry) (cs : List Char) :
    MarksPlaced registry cs (start.after registry 0 cs) := by
  induction cs using List.reverseRecOn with
  | nil => exact ⟨by simp [start], by simp [start]⟩
  | append_singleton cs c ih =>
    have hplaced := ih.append [c]
    rw [after_concat, Nat.zero_add, advance]
    cases hr : (start.after registry 0 cs).role c
    case openGroup => exact ⟨hplaced.completed.negated, hplaced.completed.bar⟩
    case closeGroup =>
      rw [closeInnermost]
      cases (start.after registry 0 cs).enclosing <;> exact ⟨hplaced.negated, hplaced.bar⟩
    case bar =>
      obtain ⟨ho, rfl⟩ := role_eq_bar_iff.mp hr
      refine ⟨hplaced.negated, ?_⟩
      rintro _ ⟨⟩
      exact unquoted_concat ho
    case bang =>
      obtain ⟨ho, rfl, -⟩ := role_eq_bang_iff.mp hr
      refine ⟨?_, hplaced.bar⟩
      rintro _ ⟨⟩
      exact unquoted_concat ho
    case operator =>
      obtain ⟨word, pre, hs⟩ := (start.after registry 0 cs).exists_operator_eq c
      rw [hs]
      exact ⟨hplaced.negated, hplaced.bar⟩
    case blank => exact hplaced.completed
    all_goals exact ⟨hplaced.negated, hplaced.bar⟩

/-! ### Faults -/

lemma pointsAt_of_closeFault {fault : SyntaxFault} (h : s.closeFault? = some fault)
    (hp : Unquoted registry cs p ')') : PointsAt registry cs ⟨p, fault⟩ := by
  rw [closeFault?] at h
  split_ifs at h <;> cases h <;> exact hp

lemma pointsAt_of_joinFault {e : SyntaxError} (h : s.joinFault? = some e)
    (hs : MarksPlaced registry cs s) : PointsAt registry cs e := by
  rw [joinFault?] at h
  split at h
  next p hbar hterms =>
    split_ifs at h
    cases h
    exact hs.bar p hbar
  next => cases h

lemma pointsAt_of_stepFault {u v : List Char} {e : SyntaxError}
    (h : (start.after registry 0 u).stepFault? u.length c = some e) :
    PointsAt registry (u ++ c :: v) e := by
  have hmarks := (marksPlaced_after registry u).append (c :: v)
  rw [stepFault?] at h
  split at h
  next hr =>
    obtain ⟨fault, hfault, rfl⟩ := Option.map_eq_some_iff.mp h
    obtain ⟨ho, rfl⟩ := role_eq_closeGroup_iff.mp hr
    exact pointsAt_of_closeFault hfault (unquoted_iff.mpr ⟨u, v, rfl, rfl, ho⟩)
  next => exact pointsAt_of_joinFault h hmarks
  next => exact pointsAt_of_joinFault h hmarks
  next => cases h

lemma pointsAt_of_quoteFault {e : SyntaxError}
    (h : (start.after registry 0 cs).quoteFault? cs.length = some e) : PointsAt registry cs e := by
  have hquote := quotePlaced_after registry cs
  rw [quoteFault?] at h
  cases hq : (start.after registry 0 cs).quoting <;> rw [hq] at h hquote <;> cases h
  · exact hquote
  · exact ⟨rfl, hquote.2⟩

lemma pointsAt_of_pendingFault {e : SyntaxError}
    (h : ((start.after registry 0 cs).completed registry).pendingFault? = some e) :
    PointsAt registry cs e := by
  have hmarks := (marksPlaced_after registry cs).completed
  rw [pendingFault?, enclosing_completed] at h
  cases hlast : (start.after registry 0 cs).enclosing.getLast? with
  | some d =>
    rw [hlast] at h
    cases h
    exact isLeast_unclosed hlast
  | none =>
    rw [hlast] at h
    cases hbar : ((start.after registry 0 cs).completed registry).bar with
    | some p =>
      rw [hbar] at h
      cases h
      exact hmarks.bar p hbar
    | none =>
      cases hnegated : ((start.after registry 0 cs).completed registry).negated with
      | some p =>
        rw [hbar, hnegated] at h
        cases h
        exact hmarks.negated p hnegated
      | none =>
        rw [hbar, hnegated] at h
        cases h

lemma pointsAt_of_finishFault {e : SyntaxError}
    (h : (start.after registry 0 cs).finishFault? registry cs.length = some e) :
    PointsAt registry cs e := by
  rw [finishFault?, Option.or_eq_some_iff] at h
  rcases h with h | ⟨-, h⟩
  · exact pointsAt_of_quoteFault h
  · rcases Option.or_eq_some_iff.mp h with h | ⟨-, h⟩
    · exact pointsAt_of_joinFault h (marksPlaced_after registry cs)
    · exact pointsAt_of_pendingFault h

/-- A strict scan fails at a character with a fault. -/
lemma exists_stepFault_of_run_eq_error {position : Nat} {e : SyntaxError}
    (h : s.run .strict registry position cs = .error e) :
    ∃ u c v, cs = u ++ c :: v ∧
      (s.after registry position u).stepFault? (position + u.length) c = some e := by
  induction cs generalizing s position with
  | nil => cases h
  | cons c cs ih =>
    rw [run, step_strict] at h
    cases hf : s.stepFault? position c with
    | some e' =>
      rw [hf] at h
      obtain rfl : e' = e := Except.error.inj h
      exact ⟨[], c, cs, rfl, hf⟩
    | none =>
      rw [hf] at h
      obtain ⟨u, d, v, rfl, hd⟩ := ih h
      refine ⟨c :: u, d, v, rfl, ?_⟩
      rwa [List.length_cons, Nat.add_comm u.length, ← Nat.add_assoc]

end Scanner

/-- The position of an error of strict mode is that of the character its message is about; only a
backslash that escapes nothing is reported at the end of the query. -/
theorem parseStrict_error_pointsAt {registry : Registry} {query : String} {e : SyntaxError}
    {fault : SyntaxFault} (h : parseStrict registry query = .error e)
    (hm : e.fault.message = fault.message) :
    PointsAt registry query.toList ⟨e.position, fault⟩ ∧
      (fault ≠ .danglingEscape → e.position < query.toList.length) := by
  obtain rfl : e.fault = fault := SyntaxFault.message_inj hm
  have hpoints : PointsAt registry query.toList e := by
    rw [parseStrict, scan] at h
    cases hr : Scanner.start.run .strict registry 0 query.toList with
    | error e' =>
      rw [hr] at h
      obtain rfl : e' = e := Except.error.inj h
      obtain ⟨u, c, v, hq, hf⟩ := Scanner.exists_stepFault_of_run_eq_error hr
      rw [Nat.zero_add] at hf
      rw [hq]
      exact Scanner.pointsAt_of_stepFault hf
    | ok s =>
      rw [hr] at h
      obtain ⟨-, rfl⟩ := (Scanner.run_strict_eq_ok_iff registry _ _ _).mp hr
      dsimp only at h
      rw [Scanner.finish_strict] at h
      cases hf : (Scanner.start.after registry 0 query.toList).finishFault? registry
          query.toList.length with
      | some e' =>
        rw [hf] at h
        obtain rfl : e' = e := Except.error.inj h
        exact Scanner.pointsAt_of_finishFault hf
      | none =>
        rw [hf] at h
        cases h
  exact ⟨hpoints, hpoints.lt_length⟩

/-- Neither a group that is closed, nor a parenthesis in quotes, nor a group inside the one that
stays open is reported. -/
theorem parseStrict_error_pointsAt_unclosed :
    ∃ e, parseStrict Registry.builtin "(a ) \"(\" (b (c (d )" = .error e ∧
      e.fault.message = "unclosed '('" ∧ e.position = 9 ∧
      IsLeast {p | Unclosed Registry.builtin "(a ) \"(\" (b (c (d )".toList p} 9 ∧
      e.position < "(a ) \"(\" (b (c (d )".toList.length := by
  have h : parseStrict Registry.builtin "(a ) \"(\" (b (c (d )" = .error ⟨9, .unclosedGroup⟩ := rfl
  have hp := parseStrict_error_pointsAt h (Eq.refl SyntaxFault.unclosedGroup.message)
  exact ⟨_, h, rfl, rfl, hp.1, hp.2 (by decide)⟩

end Query

end CardSearch
