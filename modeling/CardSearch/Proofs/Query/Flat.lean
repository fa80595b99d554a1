import CardSearch.Card
import CardSearch.Proofs.Query.Disjunction
import CardSearch.Proofs.Search.Selection

/-!
# Flat queries

Without parentheses and quotes a query is a list of clauses, and a clause is a list of atoms with a
`|` between any two of them. The `|` binds tighter than the blank between two clauses: a record has
to match every clause, and for that it is enough that one atom of the clause holds.

The text of a flat query is read from the left. After each atom the scanner is at the end of a word
(`Scanner.Ends`), with the disjunction of the atoms of the clause so far on top of the clauses
before it.
-/

namespace CardSearch.Query

variable {registry : Registry}

/-! ### Atoms, clauses and their texts -/

/-- A plain word, or a plain name that is known with an operator and a plain word after it. -/
inductive Bare (registry : Registry) where
  | name (word : String) (hw : PlainWord word)
  | filter (a : String) (f : Filter) (o : Operator) (word : String) (ha : PlainWord a)
    (hf : registry.lookup a = some f) (hw : PlainWord word)

/-- What can stand on a side of a `|`. -/
structure Atom (registry : Registry) where
  negated : Bool
  bare : Bare registry

/-- A list of atoms that is not empty. -/
structure Clause (registry : Registry) where
  first : Atom registry
  rest : List (Atom registry)

def Bare.text : Bare registry → String
  | .name word _             => word
  | .filter a _ o word _ _ _ => a ++ o.token ++ word

def Atom.text (a : Atom registry) : String :=
  if a.negated then "!" ++ a.bare.text else a.bare.text

def Clause.atoms (c : Clause registry) : List (Atom registry) := c.first :: c.rest

def Clause.text (c : Clause registry) : String := " | ".intercalate (c.atoms.map Atom.text)

/-- The clauses as a query. -/
def flatText (clauses : List (Clause registry)) : String :=
  " ".intercalate (clauses.map Clause.text)

lemma toList_intercalate_map_cons {β : Type} (separator : String) (f : β → String) (b : β)
    (bs : List β) :
    (separator.intercalate ((b :: bs).map f)).toList =
      (f b).toList ++ bs.flatMap fun b => separator.toList ++ (f b).toList := by
  induction bs generalizing b with
  | nil => simp
  | cons d bs ih =>
    rw [List.map_cons, List.map_cons, String.intercalate_cons_cons, ← List.map_cons,
      String.toList_append, String.toList_append, ih, List.flatMap_cons, List.append_assoc,
      List.append_assoc]

/-! ### What they ask for -/

/-- Whether a record has what is asked for: the word in its name, or a value that compares with the
word as the operator says. -/
def Bare.holds (r : Record) : Bare registry → Bool
  | .name word _ =>
    match r.displayName with
    | .text shown => Text.occurs (Text.lower word) (Text.lower shown)
    | _           => false
  | .filter _ f o word _ _ _ => compareWord (f.value r) o word

def Atom.holds (a : Atom registry) (r : Record) : Bool :=
  if a.negated then !a.bare.holds r else a.bare.holds r

/-- Whether one of the atoms holds. -/
def Clause.holds (c : Clause registry) (r : Record) : Bool := c.atoms.any fun a => a.holds r

/-! ### Their terms -/

def Bare.term : Bare registry → Term
  | .name word _             => .name word
  | .filter a f o word _ _ _ => .filter a (some f) o.token word

def Atom.term (a : Atom registry) : Term := if a.negated then .neg a.bare.term else a.bare.term

/-- The disjunction of a term and of atoms, nested to the left. -/
def orAll (t : Term) (atoms : List (Atom registry)) : Term :=
  atoms.foldl (fun l a => .or l a.term) t

def Clause.term (c : Clause registry) : Term := orAll c.first.term c.rest

namespace Scanner

variable {mode : Mode} {s : Scanner} {t : Term} {terms : List Term} {enclosing : List Enclosing}

/-! ### Reading a flat query -/

lemma token_ne_empty (o : Operator) : o.token ≠ "" := by cases o <;> decide

lemma token_operatorChars (o : Operator) : ∀ c ∈ o.token.toList, c ∈ operatorChars := by
  cases o <;> simp [Operator.token, operatorChars]

lemma run_plainWord {word : String} {pre : Option FilterPrefix} {negated bar : Option Nat}
    (position : Nat) (h : PlainWord word) :
    run mode registry ⟨"", pre, .outside, negated, bar, terms, enclosing⟩ position word.toList =
      .ok ⟨word, pre, .outside, negated, bar, terms, enclosing⟩ := by
  rw [run_plain registry position h.2, String.empty_append, String.ofList_toList]

lemma types_bare (p : Bare registry) : Types registry p.text.toList p.term := by
  intro mode negated bar terms enclosing position
  cases p with
  | name word hw => exact ⟨word, none, hw.1, run_plainWord position hw, rfl⟩
  | filter a f o word ha hf hw =>
    refine ⟨word, some ⟨a, o.token⟩, hw.1, ?_, ?_⟩
    · rw [Bare.text, String.toList_append, String.toList_append, List.append_assoc]
      refine run_append (run_plainWord position ha) (run_append ?_ (run_plainWord _ hw))
      exact run_operator _ ha.1 (token_ne_empty o) (token_operatorChars o)
    · simp only [bareLeaf, hf, Bare.term]

/-- An atom is added to the innermost group. -/
lemma exists_run_atom (a : Atom registry) (bar : Option Nat) (hb : bar = none ∨ terms ≠ [])
    (position : Nat) :
    ∃ s, run mode registry ⟨"", none, .outside, none, bar, terms, enclosing⟩ position
        a.text.toList = .ok s ∧
      Ends registry s (joined bar terms a.term) enclosing := by
  have htypes := types_bare a.bare
  cases hn : a.negated with
  | false =>
    simp only [Atom.text, Atom.term, hn]
    exact htypes.exists_run hb position
  | true =>
    have htext : a.text.toList = '!' :: a.bare.text.toList := by simp [Atom.text, hn]
    have hterm : a.term = .neg a.bare.term := by simp [Atom.term, hn]
    rw [htext, hterm]
    exact htypes.exists_run_neg hb position

/-- Atoms with a `|` before each are joined to the last term. -/
lemma exists_run_atoms (atoms : List (Atom registry)) (position : Nat)
    (hs : Ends registry s (t :: terms) enclosing) :
    ∃ s', run mode registry s position
        (atoms.flatMap fun a => " | ".toList ++ a.text.toList) = .ok s' ∧
      Ends registry s' (orAll t atoms :: terms) enclosing := by
  induction atoms generalizing s t position with
  | nil => exact ⟨s, rfl, hs⟩
  | cons a atoms ih =>
    obtain ⟨s₁, hatom, hs₁⟩ :=
      exists_run_atom a (some (position + 1)) (.inr (List.cons_ne_nil t terms)) (position + 3)
    obtain ⟨s₂, hrest, hs₂⟩ := ih _ hs₁
    refine ⟨s₂, ?_, hs₂⟩
    rw [List.flatMap_cons, List.append_assoc]
    exact run_cons (hs.step_blank position) (run_append (run_bar _) (run_append hatom hrest))

lemma exists_run_clause (c : Clause registry) (position : Nat) :
    ∃ s, run mode registry (idle terms enclosing) position c.text.toList = .ok s ∧
      Ends registry s (c.term :: terms) enclosing := by
  obtain ⟨s₁, hfirst, hs₁⟩ := exists_run_atom c.first none (.inl rfl) position
  obtain ⟨s₂, hrest, hs₂⟩ := exists_run_atoms c.rest _ hs₁
  refine ⟨s₂, ?_, hs₂⟩
  rw [Clause.text, Clause.atoms, toList_intercalate_map_cons]
  exact run_append hfirst hrest

/-- Clauses with a blank before each are added to the innermost group. -/
lemma exists_run_clauses (clauses : List (Clause registry)) (position : Nat)
    (hs : Ends registry s terms enclosing) :
    ∃ s', run mode registry s position
        (clauses.flatMap fun c => " ".toList ++ c.text.toList) = .ok s' ∧
      Ends registry s' ((clauses.map Clause.term).reverse ++ terms) enclosing := by
  induction clauses generalizing s terms position with
  | nil => exact ⟨s, rfl, hs⟩
  | cons c clauses ih =>
    obtain ⟨s₁, hclause, hs₁⟩ := exists_run_clause c _
    obtain ⟨s₂, hrest, hs₂⟩ := ih _ hs₁
    refine ⟨s₂, ?_, by simpa using hs₂⟩
    rw [List.flatMap_cons, List.append_assoc]
    exact run_append (run_cons (hs.step_blank position) rfl) (run_append hclause hrest)

lemma exists_run_flatText (clauses : List (Clause registry)) :
    ∃ s, start.run mode registry 0 (flatText clauses).toList = .ok s ∧
      Ends registry s (clauses.map Clause.term).reverse [] := by
  cases clauses with
  | nil => exact ⟨start, rfl, ends_idle registry [] []⟩
  | cons c clauses =>
    obtain ⟨s₁, hclause, hs₁⟩ := exists_run_clause c 0
    obtain ⟨s₂, hrest, hs₂⟩ := exists_run_clauses clauses _ hs₁
    refine ⟨s₂, ?_, by simpa using hs₂⟩
    rw [flatText, toList_intercalate_map_cons]
    exact run_append hclause hrest

end Scanner

lemma scan_flatText (mode : Mode) (clauses : List (Clause registry)) :
    scan mode registry (flatText clauses).toList = .ok (.group (clauses.map Clause.term)) := by
  obtain ⟨s, hrun, hs⟩ := Scanner.exists_run_flatText clauses
  rw [scan, hrun]
  simp only [hs.finish, List.reverse_reverse]

/-! ### Matching a flat query -/

variable {r : Record}

lemma Bare.holds_term (p : Bare registry) : p.term.holds r = .ok (p.holds r) := by
  cases p with
  | name word hw =>
    rw [Bare.term, Term.holds, Bare.holds]
    cases r.displayName <;> rfl
  | filter a f o word ha hf hw =>
    simp [Bare.term, Term.holds, Term.filterHolds, Bare.holds, Filter.holds]

lemma Atom.holds_term (a : Atom registry) : a.term.holds r = .ok (a.holds r) := by
  rw [Atom.term, Atom.holds]
  cases a.negated with
  | false => exact a.bare.holds_term
  | true => simp [Term.holds, a.bare.holds_term, Except.map]

lemma holds_orAll {t : Term} {b : Bool} (ht : t.holds r = .ok b) (atoms : List (Atom registry)) :
    (orAll t atoms).holds r = .ok (b || atoms.any fun a => a.holds r) := by
  induction atoms generalizing t b with
  | nil => simpa [orAll] using ht
  | cons a atoms ih =>
    have hor : (Term.or t a.term).holds r = .ok (b || a.holds r) := by
      rw [Term.holds, ht, a.holds_term]
      cases b <;> rfl
    rw [List.any_cons, ← Bool.or_assoc]
    exact ih hor

lemma Clause.holds_term (c : Clause registry) : c.term.holds r = .ok (c.holds r) :=
  holds_orAll c.first.holds_term c.rest

lemma holdsAll_clauses (clauses : List (Clause registry)) :
    Term.holdsAll r (clauses.map Clause.term) = .ok (clauses.all fun c => c.holds r) := by
  induction clauses with
  | nil => rfl
  | cons c clauses ih =>
    rw [List.map_cons, Term.holdsAll, c.holds_term, List.all_cons]
    cases c.holds r with
    | true => exact ih
    | false => rfl

lemma select_clauses {α : Type} [Searchable α] (clauses : List (Clause registry)) (rs : List α) :
    (Term.group (clauses.map Clause.term)).select rs =
      .ok (rs.filter fun r => clauses.all fun c => c.holds (record r)) := by
  have hholds (r : Record) : (Term.group (clauses.map Clause.term)).holds r =
      .ok (clauses.all fun c => c.holds r) := by
    rw [Term.holds, holdsAll_clauses]
  rw [Term.select_eq_ok fun q _ => ⟨_, hholds (record q)⟩]
  simp only [Term.accepts, hholds]

/-- Strict mode accepts a flat query, and it selects the records for which every clause has an atom
that holds. How the results are shown does not matter for that. -/
theorem select_flatText (clauses : List (Clause registry)) :
    ∃ t, parseStrict registry (flatText clauses) = .ok t ∧
      ∀ {α : Type} [Searchable α] (rs : List α),
        t.select rs = .ok (rs.filter fun r => clauses.all fun c => c.holds (record r)) :=
  ⟨_, scan_flatText .strict clauses, select_clauses clauses⟩

/-- Rare or not an ant, and a dragon. -/
example : ∃ clauses : List (Clause Registry.builtin),
    flatText clauses = "r:rare | !ant dragon" :=
  ⟨[⟨⟨false, .filter "r" ⟨["r", "rarity"], .field "rarity"⟩ .has "rare" (by decide) rfl
      (by decide)⟩, [⟨true, .name "ant" (by decide)⟩]⟩, ⟨⟨false, .name "dragon" (by decide)⟩, []⟩],
    rfl⟩

end CardSearch.Query
