import CardSearch.Proofs.Query.Resolution
import CardSearch.Proofs.Search.Selection
import CardSearch.Proofs.Text.Quoted

/-!
# Terms read back from their text

The text of a term tells the term, up to what its filter terms resolve to. No keyword is reserved:
a filter may be called `and`, `or` or `not`. What tells a filter term from the others is that two
spaces stand before its first quote, and elsewhere one at most.

Only the aliases and operators of filter terms are written bare, so they have to be `Legible`.
-/

namespace CardSearch

namespace Term

/-! ### Legible terms -/

/-- An alias and an operator that can be read where they are written bare. -/
structure LegibleFilter (a op : String) : Prop where
  alias_ne : a ≠ ""
  alias_chars : ∀ c ∈ a.toList, c ∉ [' ', '"', '(', ')']
  op_ne : op ≠ ""
  op_chars : ∀ c ∈ op.toList, c ∈ Query.Scanner.operatorChars

/-- All filter terms in a term can be read. -/
def Legible (t : Term) : Prop :=
  ∀ a f op word, Within (.filter a f op word) t → LegibleFilter a op

variable {t l r : Term} {ts : List Term}

lemma Legible.of_neg (h : (Term.neg t).Legible) : t.Legible :=
  fun a f op word hw => h a f op word (.neg hw)

lemma Legible.of_left (h : (Term.or l r).Legible) : l.Legible :=
  fun a f op word hw => h a f op word (.left hw)

lemma Legible.of_right (h : (Term.or l r).Legible) : r.Legible :=
  fun a f op word hw => h a f op word (.right hw)

lemma Legible.of_mem (h : (Term.group ts).Legible) (ht : t ∈ ts) : t.Legible :=
  fun a f op word hw => h a f op word (.part ht hw)

/-! ### Texts of terms -/

lemma toList_display_name (word : String) :
    (Term.name word).display.toList = Text.quotedList word.toList := by
  rw [display, Text.toList_quoted]

lemma toList_display_neg (t : Term) :
    (Term.neg t).display.toList = '(' :: ("not ".toList ++ (t.display.toList ++ [')'])) := by
  simp [display]

lemma toList_display_filter (a : String) (f : Option Filter) (op word : String) :
    (Term.filter a f op word).display.toList =
      '(' :: ((a ++ " " ++ op ++ " ").toList ++ (Text.quotedList word.toList ++ [')'])) := by
  simp [display]

lemma toList_display_or (l r : Term) :
    (Term.or l r).display.toList =
      '(' :: ("or ".toList ++ (l.display.toList ++ ' ' :: (r.display.toList ++ [')']))) := by
  simp [display]

lemma toList_display_group (ts : List Term) :
    (Term.group ts).display.toList =
      '(' :: ("and".toList ++ ((displayAll ts).toList ++ [')'])) := by
  simp [display]

lemma toList_displayAll_cons (t : Term) (ts : List Term) :
    (displayAll (t :: ts)).toList = ' ' :: (t.display.toList ++ (displayAll ts).toList) := by
  simp [displayAll]

/-! ### Kinds of terms -/

/-- The constructors of terms. -/
inductive Kind where
  | name
  | neg
  | filter
  | or
  | group

/-- The kind of a term. -/
def kind : Term → Kind
  | .name _         => .name
  | .neg _          => .neg
  | .filter _ _ _ _ => .filter
  | .or _ _         => .or
  | .group _        => .group

/-- Whether a character is neither a quote nor a parenthesis. -/
def isBare (c : Char) : Bool := !(['"', '(', ')'].contains c)

/-- The kind of a term in parentheses, by what stands between the first one and the first quote or
parenthesis after it. -/
def Kind.ofOpening (opening : String) : Kind :=
  if opening = "not " then .neg
  else if opening = "or " then .or
  else if opening = "and" ∨ opening = "and " then .group
  else .filter

/-- The kind of the term that a text begins with. -/
def Kind.ofText : List Char → Kind
  | '(' :: cs => .ofOpening (String.ofList (cs.takeWhile isBare))
  | _         => .name

lemma ofText_append {opening : String} {x : List Char} (ho : opening.toList.all isBare = true)
    (hx : x.takeWhile isBare = []) :
    Kind.ofText ('(' :: (opening.toList ++ x)) = .ofOpening opening := by
  rw [Kind.ofText, List.takeWhile_append_of_pos (List.all_eq_true.mp ho), hx, List.append_nil,
    String.ofList_toList]

lemma takeWhile_display (t : Term) (x : List Char) :
    (t.display.toList ++ x).takeWhile isBare = [] := by
  cases t with
  | name word => rw [toList_display_name]; rfl
  | neg t => rw [toList_display_neg]; rfl
  | filter a f op word => rw [toList_display_filter]; rfl
  | or l r => rw [toList_display_or]; rfl
  | group ts => rw [toList_display_group]; rfl

/-- Two spaces stand in the opening of a filter term. -/
lemma ofOpening_filter (a op : String) : Kind.ofOpening (a ++ " " ++ op ++ " ") = .filter := by
  have hne (keyword : String) (hk : keyword.toList.count ' ' ≤ 1) :
      a ++ " " ++ op ++ " " ≠ keyword := by
    rintro rfl
    simp [List.count_append] at hk
    omega
  simp only [Kind.ofOpening, hne "not " (by decide), hne "or " (by decide), hne "and" (by decide),
    hne "and " (by decide), or_self, if_false]

lemma LegibleFilter.isBare {a op : String} (h : LegibleFilter a op) :
    (a ++ " " ++ op ++ " ").toList.all Term.isBare = true := by
  have hop : Query.Scanner.operatorChars.all Term.isBare = true := by decide
  rw [List.all_eq_true] at hop ⊢
  intro c hc
  simp only [String.toList_append, List.mem_append] at hc
  rcases hc with ((hc | hc) | hc) | hc
  · have hchars := h.alias_chars c hc
    simp only [List.mem_cons, not_or] at hchars
    simp [Term.isBare, hchars]
  · rw [List.mem_singleton.mp hc]
    rfl
  · exact hop c (h.op_chars c hc)
  · rw [List.mem_singleton.mp hc]
    rfl

lemma LegibleFilter.space_notMem {a op : String} (h : LegibleFilter a op) :
    ' ' ∉ a.toList ∧ ' ' ∉ op.toList := by
  constructor
  · intro hc
    exact h.alias_chars ' ' hc List.mem_cons_self
  · intro hc
    exact absurd (h.op_chars ' ' hc) (by decide)

/-- The kind of a term can be read off its text, whatever stands behind it. -/
lemma ofText_display (h : t.Legible) (x : List Char) :
    Kind.ofText (t.display.toList ++ x) = t.kind := by
  cases t with
  | name word =>
    rw [toList_display_name]
    rfl
  | neg t =>
    rw [toList_display_neg, List.cons_append, List.append_assoc, List.append_assoc,
      ofText_append (by decide) (t.takeWhile_display _)]
    rfl
  | filter a f op word =>
    rw [toList_display_filter, List.cons_append, List.append_assoc,
      ofText_append (h a f op word .self).isBare rfl, ofOpening_filter]
    rfl
  | or l r =>
    rw [toList_display_or, List.cons_append, List.append_assoc, List.append_assoc,
      ofText_append (by decide) (l.takeWhile_display _)]
    rfl
  | group ts =>
    rw [toList_display_group, List.cons_append, List.append_assoc]
    cases ts with
    | nil =>
      rw [ofText_append (by decide) rfl]
      rfl
    | cons t ts =>
      have hspace :
          "and".toList ++ (' ' :: (t.display.toList ++ (displayAll ts).toList) ++ [')'] ++ x) =
            "and ".toList ++ (t.display.toList ++ ((displayAll ts).toList ++ ([')'] ++ x))) := by
        simp
      rw [toList_displayAll_cons, hspace, ofText_append (by decide) (t.takeWhile_display _)]
      rfl

/-! ### Reading -/

lemma append_closing_inj {x x' : List Char} (h : [')'] ++ x = [')'] ++ x') : x = x' :=
  List.append_cancel_left h

mutual

/-- A term and what stands behind it can be read off a text. -/
lemma display_append_inj (t t' : Term) (h : t.Legible) (h' : t'.Legible) {x x' : List Char}
    (heq : t.display.toList ++ x = t'.display.toList ++ x') : t.erased = t'.erased ∧ x = x' := by
  have hkind : t.kind = t'.kind := by
    rw [← ofText_display h x, heq, ofText_display h']
  cases t with
  | name word =>
    cases t' with
    | name word' =>
      rw [toList_display_name, toList_display_name] at heq
      obtain ⟨hword, hx⟩ := Text.quotedList_append_inj heq
      rw [String.toList_inj.mp hword]
      exact ⟨rfl, hx⟩
    | _ => cases hkind
  | neg t =>
    cases t' with
    | neg t' =>
      simp only [toList_display_neg, List.cons_append, List.append_assoc, List.cons.injEq, true_and,
        List.append_cancel_left_eq] at heq
      obtain ⟨ht, hx⟩ := display_append_inj t t' h.of_neg h'.of_neg heq
      exact ⟨congrArg Term.neg ht, append_closing_inj hx⟩
    | _ => cases hkind
  | filter a f op word =>
    cases t' with
    | filter a' f' op' word' =>
      obtain ⟨ha, hop⟩ := (h a f op word .self).space_notMem
      obtain ⟨ha', hop'⟩ := (h' a' f' op' word' .self).space_notMem
      simp only [toList_display_filter, String.toList_append, List.cons_append, List.append_assoc,
        List.cons.injEq, true_and] at heq
      obtain ⟨hname, heq⟩ := Text.append_cons_inj ha ha' heq
      obtain ⟨hoperator, heq⟩ := Text.append_cons_inj hop hop' heq
      obtain ⟨hword, hx⟩ := Text.quotedList_append_inj heq
      rw [String.toList_inj.mp hname, String.toList_inj.mp hoperator, String.toList_inj.mp hword]
      exact ⟨rfl, append_closing_inj hx⟩
    | _ => cases hkind
  | or l r =>
    cases t' with
    | or l' r' =>
      simp only [toList_display_or, List.cons_append, List.append_assoc, List.cons.injEq, true_and,
        List.append_cancel_left_eq] at heq
      obtain ⟨hl, heq⟩ := display_append_inj l l' h.of_left h'.of_left heq
      obtain ⟨hr, hx⟩ := display_append_inj r r' h.of_right h'.of_right (List.cons.inj heq).2
      exact ⟨congrArg₂ Term.or hl hr, append_closing_inj hx⟩
    | _ => cases hkind
  | group ts =>
    cases t' with
    | group ts' =>
      simp only [toList_display_group, List.cons_append, List.append_assoc, List.cons.injEq,
        true_and, List.append_cancel_left_eq] at heq
      obtain ⟨hts, hx⟩ := displayAll_append_inj ts ts' (fun t => h.of_mem) (fun t => h'.of_mem) heq
      refine ⟨?_, hx⟩
      rw [erased, mapFilters_group, mapFilters_group]
      exact congrArg Term.group hts
    | _ => cases hkind

/-- The parts of a group and what stands behind it can be read off a text. -/
lemma displayAll_append_inj (ts ts' : List Term) (h : ∀ t ∈ ts, t.Legible)
    (h' : ∀ t ∈ ts', t.Legible) {x x' : List Char}
    (heq : (displayAll ts).toList ++ ')' :: x = (displayAll ts').toList ++ ')' :: x') :
    ts.map erased = ts'.map erased ∧ x = x' := by
  match ts, ts' with
  | [], [] => exact ⟨rfl, (List.cons.inj heq).2⟩
  | [], t' :: ts' =>
    rw [toList_displayAll_cons] at heq
    exact absurd (List.cons.inj heq).1 (by decide)
  | t :: ts, [] =>
    rw [toList_displayAll_cons] at heq
    exact absurd (List.cons.inj heq).1 (by decide)
  | t :: ts, t' :: ts' =>
    rw [toList_displayAll_cons, toList_displayAll_cons] at heq
    simp only [List.cons_append, List.append_assoc, List.cons.injEq, true_and] at heq
    obtain ⟨ht, hrest⟩ := display_append_inj t t' (h t List.mem_cons_self)
      (h' t' List.mem_cons_self) heq
    obtain ⟨hts, hx⟩ := displayAll_append_inj ts ts' (fun u hu => h u (List.mem_cons_of_mem t hu))
      (fun u hu => h' u (List.mem_cons_of_mem t' hu)) hrest
    exact ⟨by rw [List.map_cons, List.map_cons, ht, hts], hx⟩

end

mutual

/-- What the filter terms resolve to does not show. -/
lemma display_erased (t : Term) : t.erased.display = t.display := by
  match t with
  | .name word => rfl
  | .neg t =>
    have ht := display_erased t
    rw [erased] at ht ⊢
    rw [mapFilters, display, display, ht]
  | .filter a f op word => rfl
  | .or l r =>
    have hl := display_erased l
    have hr := display_erased r
    rw [erased] at hl hr ⊢
    rw [mapFilters, display, display, hl, hr]
  | .group ts =>
    have hts := displayAll_map_erased ts
    rw [erased] at hts ⊢
    rw [mapFilters_group, display, display, hts]

lemma displayAll_map_erased (ts : List Term) : displayAll (ts.map erased) = displayAll ts := by
  match ts with
  | [] => rfl
  | t :: ts =>
    rw [List.map_cons, displayAll, displayAll, display_erased t, displayAll_map_erased ts]

end

/-- The text of a term tells the term, up to what its filter terms resolve to. -/
theorem display_eq_display_iff {t t' : Term} (h : t.Legible) (h' : t'.Legible) :
    t.display = t'.display ↔ t.erased = t'.erased := by
  constructor
  · intro hd
    have heq : t.display.toList ++ [] = t'.display.toList ++ [] := by rw [hd]
    exact (display_append_inj t t' h h' heq).1
  · intro he
    rw [← display_erased t, he, display_erased]

/-- An alias that looks like a keyword, and a word that looks like the end of a term. -/
theorem display_eq_display_iff_keyword :
    ∃ t t' : Term, t.Legible ∧ t'.Legible ∧ t.display = t'.display ∧ t.erased = t'.erased ∧
      t = .group [.filter "and" (some ⟨["and"], .field "set"⟩) "!" "a\") (or", .neg (.group [])] ∧
      t' = .group [.filter "and" none "!" "a\") (or", .neg (.group [])] := by
  have hlegible (f : Option Filter) :
      (Term.group [.filter "and" f "!" "a\") (or", .neg (.group [])]).Legible := by
    intro a g op word hw
    cases hw with
    | part ht hw =>
      rw [List.mem_pair] at ht
      rcases ht with rfl | rfl
      · cases hw
        exact ⟨by decide, by simp, by decide, by simp [Query.Scanner.operatorChars]⟩
      · cases hw with
        | neg hw =>
          cases hw with
          | part ht hw => cases ht
  have hdisplay (f : Option Filter) :
      (Term.group [.filter "and" f "!" "a\") (or", .neg (.group [])]).display =
        (Term.group [.filter "and" none "!" "a\") (or", .neg (.group [])]).display := by
    simp only [display, displayAll]
  exact ⟨_, _, hlegible (some ⟨["and"], .field "set"⟩), hlegible none, hdisplay _,
    (display_eq_display_iff (hlegible _) (hlegible _)).mp (hdisplay _), rfl, rfl⟩

end Term

end CardSearch
