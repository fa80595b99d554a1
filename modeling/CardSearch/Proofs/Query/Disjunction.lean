import CardSearch.Card
import CardSearch.Proofs.Query.Composition
import CardSearch.Proofs.Query.Opening

/-!
# Disjunctions of groups

A `|` joins the next finished word to the term before it. A group that is closed before the `|` is
such a term. A group that is opened after it is not: the `|` goes on waiting inside, so the group
is read as it would be after a `|` at its beginning, and stands beside the term that the `|` was
typed after. Strict mode refuses such a query.

Inside the group the `|` finds no term to join the first word to, unless an empty group comes before
that word. `Follows` relates the scan of a query to the one with a `|` waiting before it.
-/

namespace CardSearch.Query

/-- A word that is read as it is typed. -/
def PlainWord (word : String) : Prop := word ≠ "" ∧ ∀ c ∈ word.toList, c ∉ Scanner.marks

instance (word : String) : Decidable (PlainWord word) :=
  decidable_of_iff (word ≠ "" ∧ word.toList.all fun c => c ∉ Scanner.marks) (by simp [PlainWord])

/-- A group without parts occurs in a term. -/
inductive HasEmptyGroup : Term → Prop where
  | empty : HasEmptyGroup (.group [])
  | neg {t : Term} (h : HasEmptyGroup t) : HasEmptyGroup (.neg t)
  | left {l r : Term} (h : HasEmptyGroup l) : HasEmptyGroup (.or l r)
  | right {l r : Term} (h : HasEmptyGroup r) : HasEmptyGroup (.or l r)
  | group {t : Term} {ts : List Term} (ht : t ∈ ts) (h : HasEmptyGroup t) :
    HasEmptyGroup (.group ts)

namespace Scanner

variable {registry : Registry} {s t : Scanner} {position : Nat} {c : Char} {cs : List Char}

/-! ### How deep a scan is -/

lemma length_enclosing_advance (s : Scanner) (registry : Registry) (position : Nat) (c : Char) :
    (s.advance registry position c).enclosing.length =
      match s.role c with
      | .openGroup  => s.enclosing.length + 1
      | .closeGroup => s.enclosing.length - 1
      | _           => s.enclosing.length := by
  rw [enclosing_advance]
  cases s.role c
  case closeGroup => exact List.length_tail
  all_goals rfl

/-- The same is being typed in two scanners, and as many groups are open. -/
structure Level (s t : Scanner) : Prop extends SameTyping s t where
  depth : t.enclosing.length = s.enclosing.length

lemma Level.advance (h : Level s t) (registry : Registry) (position : Nat) (c : Char) :
    Level (s.advance registry position c) (t.advance registry position c) where
  toSameTyping := h.toSameTyping.advance registry registry position position c
  depth := by rw [length_enclosing_advance, length_enclosing_advance, h.role, h.depth]

lemma Level.after (h : Level s t) (registry : Registry) (position : Nat) (cs : List Char) :
    Level (s.after registry position cs) (t.after registry position cs) := by
  induction cs generalizing s t position with
  | nil => exact h
  | cons c cs ih => exact ih (h.advance registry position c) (position + 1)

/-- Of two scans that are level, one closes no group around if the other does not. -/
lemma Level.staysAbove (h : Level s t) {below : List Term}
    (hs : s.StaysAbove below registry position cs) : t.StaysAbove [] registry position cs := by
  induction cs generalizing s t position with
  | nil => trivial
  | cons c cs ih =>
    obtain ⟨hclose, -, hrest⟩ := hs
    refine ⟨fun hr he => hclose (h.role c ▸ hr) ?_, fun _ _ => rfl, ih (h.advance _ _ _) hrest⟩
    have hd := h.depth
    rw [he] at hd
    exact List.eq_nil_of_length_eq_zero hd.symm

/-! ### A scan after a bar -/

/-- Some term that was read has an empty group in it. -/
def ReadEmptyGroup (s : Scanner) : Prop :=
  (∃ t ∈ s.terms, HasEmptyGroup t) ∨ ∃ e ∈ s.enclosing, ∃ t ∈ e.before, HasEmptyGroup t

lemma ReadEmptyGroup.completed (h : s.ReadEmptyGroup) (registry : Registry) :
    (s.completed registry).ReadEmptyGroup := by
  rw [Scanner.completed]
  split_ifs with hw
  · exact h
  · rcases h with ⟨t, ht, he⟩ | he
    · left
      rcases joined_cases s.bar s.terms (s.leaf registry) with hj | ⟨left, rest, hts, hj⟩
      · exact ⟨t, by simp [attached, hj, ht], he⟩
      · rw [hts, List.mem_cons] at ht
        rcases ht with rfl | ht
        · exact ⟨.or t (s.leaf registry), by simp [attached, hj], .left he⟩
        · exact ⟨t, by simp [attached, hj, ht], he⟩
    · exact .inr he

lemma ReadEmptyGroup.closeInnermost (h : s.ReadEmptyGroup) :
    s.closeInnermost.ReadEmptyGroup := by
  rw [Scanner.closeInnermost]
  cases hes : s.enclosing with
  | nil => simpa [ReadEmptyGroup, hes] using h
  | cons e es =>
    rcases h with ⟨t, ht, he⟩ | ⟨d, hd, t, ht, he⟩
    · exact .inl ⟨_, List.mem_cons_self, .group (List.mem_reverse.mpr ht) he⟩
    · rw [hes, List.mem_cons] at hd
      rcases hd with rfl | hd
      · exact .inl ⟨t, List.mem_cons_of_mem _ ht, he⟩
      · exact .inr ⟨d, hd, t, ht, he⟩

lemma ReadEmptyGroup.openGroup (h : s.ReadEmptyGroup) (position : Nat) :
    (s.openGroup position).ReadEmptyGroup := by
  right
  rcases h with ⟨t, ht, he⟩ | ⟨d, hd, t, ht, he⟩
  · exact ⟨_, List.mem_cons_self, t, ht, he⟩
  · exact ⟨d, List.mem_cons_of_mem _ hd, t, ht, he⟩

lemma ReadEmptyGroup.advance (h : s.ReadEmptyGroup) (registry : Registry) (position : Nat)
    (c : Char) : (s.advance registry position c).ReadEmptyGroup := by
  rw [Scanner.advance]
  cases s.role c
  case openGroup => exact (h.completed registry).openGroup position
  case closeGroup => exact h.closeInnermost
  case operator =>
    obtain ⟨word, pre, ho⟩ := s.exists_operator_eq c
    rw [ho]
    exact h
  case blank => exact h.completed registry
  all_goals exact h

/-- How a scan with a `|` waiting before it goes on beside one without. -/
inductive Follows (s t : Scanner) : Prop where
  /-- No word was finished, so all that was read is empty groups, and the `|` still waits. -/
  | waiting (hb : s.bar = none) (ht : t = { s with bar := some 0 })
      (hterms : ∀ u ∈ s.terms, HasEmptyGroup u)
      (henclosing : ∀ e ∈ s.enclosing, ∀ u ∈ e.before, HasEmptyGroup u)
  /-- The first word found nothing to be joined to, or another `|` came before it. -/
  | same (ht : t = s)
  /-- The first word was joined to an empty group. -/
  | joined (h : s.ReadEmptyGroup)

lemma Follows.completed (h : Follows s t) (registry : Registry) :
    Follows (s.completed registry) (t.completed registry) := by
  cases h with
  | waiting hb ht hterms henclosing =>
    by_cases hw : s.word = ""
    · have hw' : t.word = "" := by rw [ht, hw]
      rw [completed_of_word_eq_empty registry s hw, completed_of_word_eq_empty registry t hw']
      exact .waiting hb ht hterms henclosing
    · cases hts : s.terms with
      | nil =>
        have hw' : t.word ≠ "" := by rwa [ht]
        refine .same ?_
        rw [completed_of_word_ne_empty registry s hw, completed_of_word_ne_empty registry t hw']
        subst ht
        simp [attached, Scanner.joined, hb, hts]
        rfl
      | cons u us =>
        have hread : s.ReadEmptyGroup := .inl ⟨u, by simp [hts], hterms u (by simp [hts])⟩
        exact .joined (hread.completed registry)
  | same ht => exact .same (by rw [ht])
  | joined h => exact .joined (h.completed registry)

lemma Follows.openGroup (h : Follows s t) (position : Nat) :
    Follows (s.openGroup position) (t.openGroup position) := by
  cases h with
  | waiting hb ht hterms henclosing =>
    refine .waiting hb (by rw [ht]; rfl) (fun u hu => by cases hu) ?_
    intro e he
    rcases List.mem_cons.mp he with rfl | he
    · exact hterms
    · exact henclosing e he
  | same ht => exact .same (by rw [ht])
  | joined h => exact .joined (h.openGroup position)

lemma Follows.closeInnermost (h : Follows s t) :
    Follows s.closeInnermost t.closeInnermost := by
  cases h with
  | waiting hb ht hterms henclosing =>
    subst ht
    rw [Scanner.closeInnermost, Scanner.closeInnermost]
    cases hes : s.enclosing with
    | nil => exact .waiting hb rfl hterms (by simp)
    | cons e es =>
      refine .waiting hb rfl ?_ fun d hd => henclosing d (hes ▸ List.mem_cons_of_mem _ hd)
      intro u hu
      rcases List.mem_cons.mp hu with rfl | hu
      · -- the group that is closed is empty, or has an empty group in it
        cases hts : s.terms with
        | nil => exact .empty
        | cons v vs => exact .group (by simp) (hterms v (by simp [hts]))
      · exact henclosing e (hes ▸ List.mem_cons_self) u hu
  | same ht => exact .same (by rw [ht])
  | joined h => exact .joined h.closeInnermost

lemma operator_bar (s : Scanner) (bar : Option Nat) (c : Char) :
    operator { s with bar := bar } c = { s.operator c with bar := bar } := by
  obtain ⟨word, pre, _, _, _, _, _⟩ := s
  cases pre with
  | none =>
    simp only [operator]
    split_ifs <;> rfl
  | some p =>
    simp only [operator]
    split_ifs <;> rfl

lemma Follows.advance (h : Follows s t) (registry : Registry) (position : Nat) (c : Char) :
    Follows (s.advance registry position c) (t.advance registry position c) := by
  by_cases hsame : t = s
  · exact .same (by rw [hsame])
  · cases h with
    | same ht => exact absurd ht hsame
    | joined h => exact .joined (h.advance registry position c)
    | waiting hb ht hterms henclosing =>
      subst ht
      have hrole : role { s with bar := some 0 } c = s.role c := rfl
      have hwait : Follows s { s with bar := some 0 } := .waiting hb rfl hterms henclosing
      rw [Scanner.advance, Scanner.advance, hrole]
      cases s.role c
      case openGroup => exact (hwait.completed registry).openGroup position
      case closeGroup => exact hwait.closeInnermost
      case bar => exact .same rfl
      case operator =>
        obtain ⟨word, pre, ho⟩ := s.exists_operator_eq c
        refine .waiting ?_ (s.operator_bar (some 0) c) ?_ ?_
        all_goals
          rw [ho]
          assumption
      case blank => exact hwait.completed registry
      all_goals exact .waiting hb rfl hterms henclosing

lemma Follows.after (h : Follows s t) (registry : Registry) (position : Nat) (cs : List Char) :
    Follows (s.after registry position cs) (t.after registry position cs) := by
  induction cs generalizing s t position with
  | nil => exact h
  | cons c cs ih => exact ih (h.advance registry position c) (position + 1)

/-- The scanner before the first character of a query that a `|` waits for. -/
def barred : Scanner := { start with bar := some 0 }

lemma level_start_barred : Level start barred := ⟨⟨rfl, rfl, rfl⟩, rfl⟩

lemma follows_start_barred : Follows start barred :=
  .waiting rfl rfl (by simp [start]) (by simp [start])

/-! ### An accepted query after a bar -/

variable {mode : Mode} {query : String} {parts : List Term}

lemma staysAbove_barred (h : parseStrict registry query = .ok (.group parts)) :
    barred.StaysAbove [] registry 0 query.toList := by
  obtain ⟨⟨hfaultless, -⟩, -⟩ := (parseStrict_eq_ok_iff registry query _).mp h
  exact level_start_barred.staysAbove (hfaultless.staysAbove [])

/-- The scan of an accepted query after a `|` ends outside quotes and in the outermost group. -/
lemma barred_after_query (h : parseStrict registry query = .ok (.group parts)) :
    (barred.after registry 0 query.toList).quoting = .outside ∧
      (barred.after registry 0 query.toList).enclosing = [] := by
  obtain ⟨pre, hcompleted⟩ := completed_after_query h
  have hlevel := level_start_barred.after registry 0 query.toList
  constructor
  · apply hlevel.quoting_eq_outside
    rw [← quoting_completed registry, hcompleted]
  · have hdepth := hlevel.depth
    rw [← (start.after registry 0 query.toList).enclosing_completed registry, hcompleted] at hdepth
    exact List.eq_nil_of_length_eq_zero hdepth

/-- After a `|`, an accepted query is read inside open groups as it is read outside. -/
lemma completed_after_of_over_barred (h : parseStrict registry query = .ok (.group parts))
    {around : List Enclosing} (hs : Over [] around barred s) (position : Nat) :
    (s.after registry position query.toList).quoting = .outside ∧
      ((s.after registry position query.toList).completed registry).terms =
        ((barred.after registry 0 query.toList).completed registry).terms ∧
      ((s.after registry position query.toList).completed registry).enclosing = around := by
  obtain ⟨hquoting, henclosing⟩ := barred_after_query h
  rw [← enclosing_completed registry] at henclosing
  have hover := hs.after (staysAbove_barred h) position
  have hend := hover.completed registry fun _ => rfl
  obtain ⟨hterms, haround⟩ := hend.of_enclosing_eq_nil henclosing
  rw [List.append_nil] at hterms
  exact ⟨hover.quoting_eq_outside hquoting, hterms, haround⟩

lemma parse_bar_query (h : parseStrict registry query = .ok (.group parts)) :
    parse registry ("| " ++ query) =
      .group ((barred.after registry 0 query.toList).completed registry).terms.reverse := by
  have hover : Over [] [] barred barred := ⟨⟨rfl, rfl, rfl⟩, rfl, rfl, .root []⟩
  obtain ⟨-, hterms, hroot⟩ := completed_after_of_over_barred h hover 2
  have hlist : ("| " ++ query).toList = ['|', ' '] ++ query.toList := by simp
  have hbarred : start.after registry 0 ['|', ' '] = barred := rfl
  rw [parse_eq, hlist, after_append, hbarred, ← hterms, rootTerms]
  simp only [List.length_cons, List.length_nil, Nat.zero_add, Nat.reduceAdd, hroot,
    List.getLast?_nil]

/-- If no group is empty, a `|` before a query changes nothing in it. -/
lemma parse_bar_query_eq (h : parseStrict registry query = .ok (.group parts))
    (hparts : ∀ t ∈ parts, ¬ HasEmptyGroup t) :
    parse registry ("| " ++ query) = .group parts := by
  obtain ⟨pre, hcompleted⟩ := completed_after_query h
  have hfollows := (follows_start_barred.after registry 0 query.toList).completed registry
  rw [parse_bar_query h]
  rw [hcompleted] at hfollows
  cases hfollows with
  | waiting hb ht hterms henclosing =>
    rw [ht, List.reverse_reverse]
  | same ht => rw [ht, List.reverse_reverse]
  | joined h =>
    rcases h with ⟨t, ht, he⟩ | ⟨e, he, -⟩
    · exact absurd he (hparts t (List.mem_reverse.mp ht))
    · cases he

/-- A group that is opened while a `|` waits is read as after a `|` at its beginning. -/
lemma rootTerms_after_barred_group (h : parseStrict registry query = .ok (.group parts))
    {c' : List Term} (hc' : parse registry ("| " ++ query) = .group c') {s : Scanner}
    {e : Enclosing} (hs : Over [] [e] barred s) (position : Nat) :
    ((s.after registry position (query.toList ++ [' ', ')'])).completed registry).rootTerms =
      (.group c' :: e.before).reverse := by
  obtain ⟨hq, hterms, hrest⟩ := completed_after_of_over_barred h hs position
  rw [parse_bar_query h, Term.group.injEq] at hc'
  rw [after_append, after_cons, after_cons, after_nil, advance_blank registry _ hq,
    advance_close registry _ (by rwa [quoting_completed]), closeInnermost, hrest]
  rw [completed_of_word_eq_empty registry _ rfl, rootTerms, hterms, ← hc']
  rfl

/-- After a query and a `|` with blanks around it, the `|` waits beside the parts of the query. -/
lemma after_query_bar (h : parseStrict registry query = .ok (.group parts))
    (hp : EndsComplete registry query) :
    ∃ p, start.after registry 0 (query.toList ++ [' ', '|', ' ']) =
      ⟨"", none, .outside, none, some p, parts.reverse, []⟩ := by
  have hrun : start.run .lenient registry 0 (query.toList ++ [' ']) =
      .ok (idle (parts.reverse ++ []) []) := run_query h hp 0
  rw [run_lenient, Except.ok.injEq, List.append_nil] at hrun
  have hlist : query.toList ++ [' ', '|', ' '] = query.toList ++ [' '] ++ ['|', ' '] := by simp
  rw [hlist, after_append, hrun, after_cons, advance_bar registry _ rfl]
  exact ⟨_, rfl⟩

/-- A group in parentheses before a `|` and a word is the left side of a disjunction. -/
lemma parse_group_bar (h : parseStrict registry query = .ok (.group parts))
    (hp : EndsComplete registry query) {word : String} (hw : PlainWord word) :
    parse registry ("(" ++ query ++ " ) | " ++ word) =
      .group [.or (.group parts) (.name word)] := by
  obtain ⟨hne, hplain⟩ := hw
  have hgroup : start.run .lenient registry 0 ('(' :: ((query.toList ++ [' ']) ++ [')'])) =
      .ok (idle [.group parts] []) := run_group h hp 0
  rw [run_lenient, Except.ok.injEq] at hgroup
  have hlist : ("(" ++ query ++ " ) | " ++ word).toList =
      '(' :: ((query.toList ++ [' ']) ++ [')']) ++ ([' ', '|', ' '] ++ word.toList) := by simp
  have hbar (position : Nat) : (idle [.group parts] []).after registry position [' ', '|', ' '] =
      ⟨"", none, .outside, none, some (position + 1), [.group parts], []⟩ := rfl
  rw [parse_eq, hlist, after_append, hgroup, after_append, hbar, after_plain registry _ rfl hplain,
    String.empty_append, String.ofList_toList, completed_of_word_ne_empty registry _ hne]
  rfl

/-- Strict mode refuses a group that is opened while a `|` waits. -/
lemma exists_error_of_bar_at_open {u v : List Char} (hq : query.toList = u ++ '(' :: v)
    (houtside : (start.after registry 0 u).quoting = .outside)
    (hbar : ((start.after registry 0 u).completed registry).bar ≠ none) :
    ∃ e, parseStrict registry query = .error e := by
  cases hp : parseStrict registry query with
  | error e => exact ⟨e, rfl⟩
  | ok t =>
    obtain ⟨⟨hfaultless, hfinish⟩, -⟩ := (parseStrict_eq_ok_iff registry query t).mp hp
    rw [hq, faultless_append] at hfaultless
    rw [hq, after_append] at hfinish
    exact absurd (bar_eq_none_at_open houtside hfaultless.2 hfinish) hbar

end Scanner

open Scanner

/-- A group on the left of a `|` is the left side of a disjunction. A group on the right of it
stands beside the term on the left, and a record has to match both. It is read as after a `|` at
its beginning, which matters only where a group is empty. Strict mode refuses the query. -/
theorem parse_bar_group {registry : Registry} {l g : String} {init c : List Term} {x : Term}
    (hl : parseStrict registry l = .ok (.group (init ++ [x]))) (hlp : EndsComplete registry l)
    (hg : parseStrict registry g = .ok (.group c)) (hgp : EndsComplete registry g) :
    (∃ c', parse registry ("| " ++ g) = .group c' ∧
      ((∀ t ∈ c, ¬ HasEmptyGroup t) → c' = c) ∧
      parse registry (l ++ " | (" ++ g ++ " )") = .group (init ++ [x, .group c']) ∧
      ∀ r, (parse registry (l ++ " | (" ++ g ++ " )")).holds r = .ok true →
        x.holds r = .ok true ∧ (Term.group c').holds r = .ok true) ∧
    (∃ e, parseStrict registry (l ++ " | (" ++ g ++ " )") = .error e) ∧
    ∀ w, PlainWord w →
      parse registry ("(" ++ g ++ " ) | " ++ w) = .group [.or (.group c) (.name w)] := by
  obtain ⟨p, hbar⟩ := after_query_bar hl hlp
  have hlist : (l ++ " | (" ++ g ++ " )").toList =
      (l.toList ++ [' ', '|', ' ']) ++ '(' :: (g.toList ++ [' ', ')']) := by simp
  have hwaits : completed registry ⟨"", none, .outside, none, some p, (init ++ [x]).reverse, []⟩ =
      ⟨"", none, .outside, none, some p, (init ++ [x]).reverse, []⟩ :=
    completed_of_word_eq_empty registry _ rfl
  refine ⟨?_, ?_, fun w hw => parse_group_bar hg hgp hw⟩
  · obtain ⟨c', hc'⟩ : ∃ c', parse registry ("| " ++ g) = .group c' := ⟨_, parse_bar_query hg⟩
    have hparse : parse registry (l ++ " | (" ++ g ++ " )") =
        .group (init ++ [x, .group c']) := by
      have hover (e : Enclosing) :
          Over [] [e] barred ⟨"", none, .outside, none, some p, [], [e]⟩ :=
        ⟨⟨rfl, rfl, rfl⟩, rfl, rfl, .root []⟩
      rw [parse_eq, hlist, after_append, hbar, after_cons, advance_open registry _ rfl, hwaits,
        openGroup, rootTerms_after_barred_group hg hc' (hover _)]
      simp
    refine ⟨c', hc', fun hparts => ?_, hparse, fun r hr => ?_⟩
    · rw [parse_bar_query_eq hg hparts, Term.group.injEq] at hc'
      exact hc'.symm
    · rw [hparse, Term.holds, Term.holdsAll_eq_ok_true_iff] at hr
      exact ⟨hr x (by simp), hr (.group c') (by simp)⟩
  · refine exists_error_of_bar_at_open hlist ?_ ?_
    · rw [hbar]
    · rw [hbar, hwaits]
      exact Option.some_ne_none p

/-- A disjunction before the `|`, and a group inside the group after it. -/
theorem parse_bar_group_nested :
    ∃ l g init c x,
      parseStrict Registry.builtin l = .ok (.group (init ++ [x])) ∧
      EndsComplete Registry.builtin l ∧
      parseStrict Registry.builtin g = .ok (.group c) ∧ EndsComplete Registry.builtin g ∧
      l = "x a | b" ∧ g = "c (d )" ∧ (∀ t ∈ c, ¬ HasEmptyGroup t) ∧ PlainWord "w" ∧
      parse Registry.builtin (l ++ " | (" ++ g ++ " )") = .group [.name "x",
        .or (.name "a") (.name "b"), .group [.name "c", .group [.name "d"]]] ∧
      (∃ r : Card,
        (parse Registry.builtin (l ++ " | (" ++ g ++ " )")).holds (record r) = .ok true ∧
        x.holds (record r) = .ok true ∧ (Term.group c).holds (record r) = .ok true) ∧
      (∃ e, parseStrict Registry.builtin (l ++ " | (" ++ g ++ " )") = .error e) ∧
      parse Registry.builtin ("(" ++ g ++ " ) | " ++ "w") =
        .group [.or (.group [.name "c", .group [.name "d"]]) (.name "w")] := by
  have hl : parseStrict Registry.builtin "x a | b" =
      .ok (.group ([.name "x"] ++ [.or (.name "a") (.name "b")])) := rfl
  have hlp : EndsComplete Registry.builtin "x a | b" := ⟨_, _, rfl, rfl, rfl⟩
  have hg : parseStrict Registry.builtin "c (d )" =
      .ok (.group [.name "c", .group [.name "d"]]) := rfl
  have hgp : EndsComplete Registry.builtin "c (d )" := ⟨_, _, rfl, rfl, rfl⟩
  have hparts : ∀ t ∈ [.name "c", .group [.name "d"]], ¬ HasEmptyGroup t := by
    intro t ht he
    rcases List.mem_cons.mp ht with rfl | ht
    · cases he
    · obtain rfl := List.mem_singleton.mp ht
      cases he with
      | group hu he =>
        obtain rfl := List.mem_singleton.mp hu
        cases he
  have hword : PlainWord "w" := by
    refine ⟨by decide, fun c hc => ?_⟩
    obtain rfl := List.mem_singleton.mp hc
    decide
  obtain ⟨⟨c', -, hc', hparse, hmatch⟩, hstrict, hplain⟩ := parse_bar_group hl hlp hg hgp
  obtain rfl := hc' hparts
  have hcard : (parse Registry.builtin ("x a | b" ++ " | (" ++ "c (d )" ++ " )")).holds
      (record (⟨[("name", .text "xbcd")]⟩ : Card)) = .ok true := by
    rw [hparse]
    rfl
  exact ⟨_, _, _, _, _, hl, hlp, hg, hgp, rfl, rfl, hparts, hword, hparse,
    ⟨_, hcard, hmatch _ hcard⟩, hstrict, hplain "w" hword⟩

/-- A card that matches the term before the `|` is not found where it fails the group after it. -/
theorem bar_before_group_not_or :
    ∃ l g init c x,
      parseStrict Registry.builtin l = .ok (.group (init ++ [x])) ∧
      EndsComplete Registry.builtin l ∧
      parseStrict Registry.builtin g = .ok (.group c) ∧ EndsComplete Registry.builtin g ∧
      c ≠ [] ∧
      parse Registry.builtin (l ++ " | (" ++ g ++ " )") ≠ .group (init ++ [.or x (.group c)]) ∧
      ∃ r : Card, x.holds (record r) = .ok true ∧
        (parse Registry.builtin (l ++ " | (" ++ g ++ " )")).holds (record r) = .ok false := by
  have hparse : parse Registry.builtin ("a" ++ " | (" ++ "b" ++ " )") =
      .group [.name "a", .group [.name "b"]] := rfl
  refine ⟨"a", "b", [], [.name "b"], .name "a", rfl, ⟨_, _, rfl, rfl, rfl⟩, rfl,
    ⟨_, _, rfl, rfl, rfl⟩, List.cons_ne_nil _ _, ?_, ⟨[("name", .text "a")]⟩, ?_, ?_⟩
  · rw [hparse]
    simp
  · rfl
  · rw [hparse]
    rfl

end CardSearch.Query
