import CardSearch.Proofs.Query.Lenient

/-!
# Strict reading

Strict mode reads as lenient mode does and stops where lenient mode would repair the query. What
is wrong with taking a character is `stepFault?`, and what is wrong with the end of the query is
`finishFault?`; a query without such faults is `Sound`. A strict scan has a tree for exactly the
sound queries, and it is the lenient one.

`Malformed` says of a query, in terms of its lenient scan alone, that it is repaired.
-/

namespace CardSearch.Query

namespace Scanner

variable (registry : Registry) (s : Scanner) (position : Nat) (c : Char) (cs : List Char)

/-! ### What is wrong with a state -/

/-- A `)` here would close a group too early, or none at all. -/
def ClosesBadly : Prop :=
  s.word ≠ "" ∨ s.pre ≠ none ∨ s.negated ≠ none ∨ s.bar ≠ none ∨ s.enclosing = []

/-- The word would be finished after a `|` with no term before it. -/
def LacksLeft : Prop := s.word ≠ "" ∧ s.bar ≠ none ∧ s.terms = []

/-- Something still waits for what comes after the query. -/
def LeftOpen : Prop := s.enclosing ≠ [] ∨ s.bar ≠ none ∨ s.negated ≠ none

/-- What is wrong with finishing the word. -/
def joinFault? : Option SyntaxError :=
  match s.bar, s.terms with
  | some p, [] => if s.word.isEmpty then none else some ⟨p, .noLeftOperand⟩
  | _,      _  => none

lemma closeFault?_eq_none_iff : s.closeFault? = none ↔ ¬ s.ClosesBadly := by
  rw [closeFault?, ClosesBadly]
  by_cases hw : s.word = ""
  · cases s.pre <;> cases s.negated <;> cases s.bar <;> cases s.enclosing <;> simp [hw]
  · simp [hw]

lemma joinFault?_eq_none_iff : s.joinFault? = none ↔ ¬ s.LacksLeft := by
  rw [joinFault?, LacksLeft]
  cases s.bar <;> cases s.terms <;> simp

lemma pendingFault?_eq_none_iff : s.pendingFault? = none ↔ ¬ s.LeftOpen := by
  rw [pendingFault?, LeftOpen, ne_eq s.enclosing, ← List.getLast?_eq_none_iff]
  cases s.enclosing.getLast? <;> cases s.bar <;> cases s.negated <;> simp

lemma quoteFault?_eq_none_iff (length : Nat) :
    s.quoteFault? length = none ↔ s.quoting = .outside := by
  rw [quoteFault?]
  cases s.quoting <;> simp

/-! ### Faults of characters and of the end -/

/-- What is wrong with taking the character at a position. -/
def stepFault? : Option SyntaxError :=
  match s.role c with
  | .closeGroup => s.closeFault?.map fun fault => ⟨position, fault⟩
  | .openGroup  => s.joinFault?
  | .blank      => s.joinFault?
  | _           => none

/-- What is wrong with the end of a query of the given length. -/
def finishFault? (length : Nat) : Option SyntaxError :=
  (s.quoteFault? length).or (s.joinFault?.or (s.completed registry).pendingFault?)

/-- Nothing is wrong with any of some characters, the first of them at a position. -/
def Faultless (s : Scanner) (position : Nat) : List Char → Prop
  | []      => True
  | c :: cs =>
    s.stepFault? position c = none ∧
      (s.advance registry position c).Faultless (position + 1) cs

lemma stepFault?_eq_none_iff :
    s.stepFault? position c = none ↔
      (s.quoting = .outside ∧ c = ')' → ¬ s.ClosesBadly) ∧
      (s.quoting = .outside ∧ c ∈ wordEnds → ¬ s.LacksLeft) := by
  rw [← role_eq_closeGroup_iff, ← role_ends_word_iff, ← closeFault?_eq_none_iff,
    ← joinFault?_eq_none_iff]
  rw [stepFault?]
  cases s.role c <;> simp

lemma finishFault?_eq_none_iff (length : Nat) :
    s.finishFault? registry length = none ↔
      s.quoting = .outside ∧ ¬ s.LacksLeft ∧ ¬ (s.completed registry).LeftOpen := by
  rw [finishFault?, Option.or_eq_none_iff, Option.or_eq_none_iff, quoteFault?_eq_none_iff,
    joinFault?_eq_none_iff, pendingFault?_eq_none_iff]

lemma faultless_iff :
    s.Faultless registry position cs ↔
      ∀ u c v, cs = u ++ c :: v →
        (s.after registry position u).stepFault? (position + u.length) c = none := by
  induction cs generalizing s position with
  | nil => simp [Faultless]
  | cons d cs ih =>
    rw [Faultless, ih]
    constructor
    · rintro ⟨hd, hcs⟩ u c v h
      cases u with
      | nil =>
        obtain ⟨rfl, rfl⟩ := List.cons.inj h
        exact hd
      | cons e u =>
        obtain ⟨rfl, rfl⟩ := List.cons.inj h
        have := hcs u c v rfl
        rwa [Nat.add_assoc, Nat.add_comm 1] at this
    · intro h
      refine ⟨h [] d cs rfl, ?_⟩
      intro u c v hcs
      have := h (d :: u) c v (by rw [hcs, List.cons_append])
      rwa [List.length_cons, Nat.add_comm u.length, ← Nat.add_assoc] at this

lemma faultless_append (u v : List Char) :
    s.Faultless registry position (u ++ v) ↔
      s.Faultless registry position u ∧
        (s.after registry position u).Faultless registry (position + u.length) v := by
  induction u generalizing s position with
  | nil => simp [Faultless]
  | cons c u ih =>
    rw [List.cons_append, Faultless, Faultless, ih, and_assoc, after_cons, List.length_cons,
      Nat.add_assoc, Nat.add_comm 1]

/-! ### Strict steps and runs -/

lemma attach_strict (leaf : Term) (hw : s.word ≠ "") :
    s.attach .strict leaf = s.joinFault?.elim (.ok (s.attached leaf)) .error := by
  simp only [attach, attached, joinFault?]
  cases s.bar with
  | none => rfl
  | some p =>
    cases s.terms with
    | nil => simp [hw]
    | cons left rest => rfl

lemma completeWord_strict :
    s.completeWord .strict registry = s.joinFault?.elim (.ok (s.completed registry)) .error := by
  rw [completeWord, leaf?_eq]
  by_cases hw : s.word = ""
  · have hj : s.joinFault? = none := (s.joinFault?_eq_none_iff).mpr fun h => h.1 hw
    rw [if_pos hw, hj, s.completed_of_word_eq_empty registry hw, Option.elim_none]
  · rw [if_neg hw, s.completed_of_word_ne_empty registry hw]
    exact s.attach_strict _ hw

lemma step_strict :
    s.step .strict registry position c =
      (s.stepFault? position c).elim (.ok (s.advance registry position c)) .error := by
  rw [step, stepFault?, advance]
  cases s.role c
  case openGroup =>
    simp only [completeWord_strict]
    cases s.joinFault? <;> rfl
  case closeGroup =>
    simp only [closeGroup]
    cases s.closeFault? <;> rfl
  case blank => exact s.completeWord_strict registry
  all_goals rfl

lemma run_strict_eq_ok_iff {s' : Scanner} :
    s.run .strict registry position cs = .ok s' ↔
      s.Faultless registry position cs ∧ s' = s.after registry position cs := by
  induction cs generalizing s position with
  | nil => simp [run, Faultless, eq_comm]
  | cons c cs ih =>
    rw [run, step_strict, Faultless, after_cons]
    cases hf : s.stepFault? position c with
    | none => simp [ih]
    | some e => simp

lemma finish_strict (length : Nat) :
    s.finish .strict registry length =
      (s.finishFault? registry length).elim (.ok (.group (s.completed registry).rootTerms))
        .error := by
  simp only [finish, finishFault?, completeWord_strict]
  cases s.quoteFault? length with
  | some e => rfl
  | none =>
    cases s.joinFault? with
    | some e => rfl
    | none => cases hp : (s.completed registry).pendingFault? <;> simp [hp]

end Scanner

/-! ### Queries -/

/-- Nothing is wrong with a query. -/
def Sound (registry : Registry) (query : String) : Prop :=
  Scanner.start.Faultless registry 0 query.toList ∧
    (Scanner.start.after registry 0 query.toList).finishFault? registry query.toList.length = none

/-- Strict mode reads the sound queries, and reads them as lenient mode does. -/
lemma parseStrict_eq_ok_iff (registry : Registry) (query : String) (t : Term) :
    parseStrict registry query = .ok t ↔ Sound registry query ∧ t = parse registry query := by
  rw [parseStrict, scan, Sound, parse_eq]
  cases hr : Scanner.start.run .strict registry 0 query.toList with
  | error e =>
    have hf : ¬ Scanner.start.Faultless registry 0 query.toList := fun hf => by
      rw [(Scanner.run_strict_eq_ok_iff registry _ _ _).mpr ⟨hf, rfl⟩] at hr
      cases hr
    simp [hf]
  | ok s =>
    obtain ⟨hf, rfl⟩ := (Scanner.run_strict_eq_ok_iff registry _ _ _).mp hr
    simp only [Scanner.finish_strict, hf, true_and]
    cases (Scanner.start.after registry 0 query.toList).finishFault? registry
      query.toList.length with
    | none => simp only [Option.elim_none, Except.ok.injEq, true_and, eq_comm (a := t)]
    | some e => simp

/-- A lenient scan of some characters ends in a state. -/
def Reaches (registry : Registry) (cs : List Char) (s : Scanner) : Prop :=
  Scanner.start.run .lenient registry 0 cs = .ok s

lemma reaches_iff {registry : Registry} {cs : List Char} {s : Scanner} :
    Reaches registry cs s ↔ s = Scanner.start.after registry 0 cs := by
  rw [Reaches, Scanner.run_lenient, Except.ok.injEq, eq_comm]

/-- A query that lenient mode repairs. -/
inductive Malformed (registry : Registry) (query : String) : Prop where
  /-- A `)` outside quotes comes after something unfinished, or closes nothing. -/
  | badClose {u v : List Char} {s : Scanner} (hq : query.toList = u ++ ')' :: v)
      (hs : Reaches registry u s) (ho : s.quoting = .outside) (hc : s.ClosesBadly)
  /-- A character finishes a word after a `|` with no term before it. -/
  | noLeft {u v : List Char} {c : Char} {s : Scanner} (hq : query.toList = u ++ c :: v)
      (hs : Reaches registry u s) (ho : s.quoting = .outside) (hc : c ∈ Scanner.wordEnds)
      (hl : s.LacksLeft)
  /-- The end finishes a word after a `|` with no term before it. -/
  | noLeftAtEnd {s : Scanner} (hs : Reaches registry query.toList s) (hl : s.LacksLeft)
  /-- The query ends inside quotes, after a backslash or not. -/
  | openQuote {s : Scanner} (hs : Reaches registry query.toList s) (hq : s.quoting ≠ .outside)
  /-- A group is open, or a `|` or `!` waits, after the last word was finished. -/
  | leftOpen {s s' : Scanner} (hs : Reaches registry query.toList s)
      (hc : s.completeWord .lenient registry = .ok s') (hl : s'.LeftOpen)

lemma Malformed.not_sound {registry : Registry} {query : String} (h : Malformed registry query) :
    ¬ Sound registry query := by
  rintro ⟨hf, he⟩
  rw [Scanner.faultless_iff] at hf
  rw [Scanner.finishFault?_eq_none_iff] at he
  obtain ⟨hquote, hjoin, hopen⟩ := he
  cases h with
  | badClose hq hs ho hc =>
    obtain rfl := reaches_iff.mp hs
    exact ((Scanner.stepFault?_eq_none_iff _ _ _).mp (hf _ _ _ hq)).1 ⟨ho, rfl⟩ hc
  | noLeft hq hs ho hc hl =>
    obtain rfl := reaches_iff.mp hs
    exact ((Scanner.stepFault?_eq_none_iff _ _ _).mp (hf _ _ _ hq)).2 ⟨ho, hc⟩ hl
  | noLeftAtEnd hs hl =>
    obtain rfl := reaches_iff.mp hs
    exact hjoin hl
  | openQuote hs hq =>
    obtain rfl := reaches_iff.mp hs
    exact hq hquote
  | leftOpen hs hc hl =>
    obtain rfl := reaches_iff.mp hs
    rw [Scanner.completeWord_lenient] at hc
    cases hc
    exact hopen hl

lemma sound_of_not_malformed {registry : Registry} {query : String}
    (h : ¬ Malformed registry query) : Sound registry query := by
  constructor
  · rw [Scanner.faultless_iff]
    intro u c v hq
    rw [Scanner.stepFault?_eq_none_iff]
    refine ⟨fun ⟨ho, hc⟩ hb => h ?_, fun ⟨ho, hc⟩ hl => h ?_⟩
    · exact .badClose (hc ▸ hq) (reaches_iff.mpr rfl) ho hb
    · exact .noLeft hq (reaches_iff.mpr rfl) ho hc hl
  · rw [Scanner.finishFault?_eq_none_iff]
    refine ⟨?_, fun hl => h ?_, fun hl => h ?_⟩
    · by_contra hq
      exact h (.openQuote (reaches_iff.mpr rfl) hq)
    · exact .noLeftAtEnd (reaches_iff.mpr rfl) hl
    · exact .leftOpen (reaches_iff.mpr rfl) (Scanner.completeWord_lenient _ _) hl

/-- Strict mode is lenient mode without its repairs: it has the tree of lenient mode or an error,
and the error for exactly the queries that lenient mode repairs. -/
theorem parseStrict_error_iff_malformed (registry : Registry) (query : String) :
    (parseStrict registry query = .ok (parse registry query) ∨
        ∃ e, parseStrict registry query = .error e) ∧
      ((∃ e, parseStrict registry query = .error e) ↔ Malformed registry query) := by
  by_cases h : Malformed registry query
  · obtain ⟨e, he⟩ : ∃ e, parseStrict registry query = .error e := by
      cases hp : parseStrict registry query with
      | error e => exact ⟨e, rfl⟩
      | ok t => exact absurd ((parseStrict_eq_ok_iff _ _ _).mp hp).1 h.not_sound
    exact ⟨.inr ⟨e, he⟩, fun _ => h, fun _ => ⟨e, he⟩⟩
  · have hok : parseStrict registry query = .ok (parse registry query) :=
      (parseStrict_eq_ok_iff _ _ _).mpr ⟨sound_of_not_malformed h, rfl⟩
    refine ⟨.inl hok, fun ⟨e, he⟩ => ?_, fun hm => absurd hm h⟩
    rw [hok] at he
    cases he

end CardSearch.Query
