import CardSearch.Proofs.Query.Frame
import CardSearch.Proofs.Query.Written

/-!
# Queries made of queries

Queries that strict mode accepts can be put side by side and into parentheses, and their trees are
put together in the same way. A blank has to end the first of them, and no filter prefix may be
left waiting in it, since it would be given to the next word.

From any `idle` scanner such a query adds the parts of its tree to the innermost group
(`Scanner.run_query`), because the scan of the query from nothing is carried over by `Over`.
-/

namespace CardSearch.Query

/-- No filter prefix waits once the last word of a query is finished. -/
def EndsComplete (registry : Registry) (query : String) : Prop :=
  ∃ s s', Reaches registry query.toList s ∧ s.completeWord .lenient registry = .ok s' ∧
    s'.pre = none

namespace Scanner

variable {mode : Mode} {registry : Registry} {query : String} {pre : Option FilterPrefix}
  {c ts terms below : List Term} {enclosing around : List Enclosing} {s s' : Scanner}

/-! ### The end of an accepted query -/

/-- After the last word of an accepted query at most a filter prefix waits. -/
lemma completed_after_query (h : parseStrict registry query = .ok (.group c)) :
    ∃ pre, (start.after registry 0 query.toList).completed registry =
      ⟨"", pre, .outside, none, none, c.reverse, []⟩ := by
  obtain ⟨⟨-, hfinish⟩, htree⟩ := (parseStrict_eq_ok_iff registry query _).mp h
  rw [finishFault?_eq_none_iff] at hfinish
  obtain ⟨hquoting, -, hopen⟩ := hfinish
  rw [parse_eq, Term.group.injEq] at htree
  rw [← quoting_completed registry] at hquoting
  have hword := (start.after registry 0 query.toList).word_completed registry
  generalize (start.after registry 0 query.toList).completed registry = s at *
  obtain ⟨word, pre, quoting, negated, bar, terms, enclosing⟩ := s
  simp only [LeftOpen, not_or, not_not] at hopen
  obtain ⟨rfl, rfl, rfl⟩ := hopen
  obtain rfl : c = terms.reverse := htree
  cases hword
  cases hquoting
  rw [List.reverse_reverse]
  exact ⟨pre, rfl⟩

lemma completed_after_query_eq_idle (h : parseStrict registry query = .ok (.group c))
    (hp : EndsComplete registry query) :
    (start.after registry 0 query.toList).completed registry = idle c.reverse [] := by
  obtain ⟨pre, hcompleted⟩ := completed_after_query h
  obtain ⟨s, s', hs, hs', hpre⟩ := hp
  obtain rfl := reaches_iff.mp hs
  rw [completeWord_lenient, hcompleted, Except.ok.injEq] at hs'
  subst hs'
  rw [hcompleted]
  obtain rfl : pre = none := hpre
  rfl

/-! ### Reading an accepted query above other terms -/

lemma over_start (terms : List Term) (enclosing : List Enclosing) :
    Over terms enclosing start (idle terms enclosing) :=
  ⟨⟨rfl, rfl, rfl⟩, rfl, rfl, .root []⟩

lemma Over.eq_of_root (h : Over below around ⟨"", pre, .outside, none, none, ts, []⟩ s') :
    s' = ⟨"", pre, .outside, none, none, ts ++ below, around⟩ := by
  have hquoting : s'.quoting = .outside := h.quoting_eq_outside rfl
  obtain ⟨word', pre', quoting', negated', bar', terms', enclosing'⟩ := s'
  obtain ⟨⟨hword, hpre, -⟩, hnegated, hbar, hstack⟩ := h
  dsimp only at hword hpre hquoting hnegated hbar hstack
  subst hword hpre hquoting
  obtain rfl : negated' = none := by simpa using hnegated
  obtain rfl : bar' = none := by simpa using hbar
  cases hstack
  rfl

lemma run_of_faultless {position : Nat} {cs : List Char}
    (h : s.Faultless registry position cs) :
    s.run mode registry position cs = .ok (s.after registry position cs) := by
  cases mode with
  | lenient => exact s.run_lenient registry position cs
  | strict => exact (run_strict_eq_ok_iff registry s position cs).mpr ⟨h, rfl⟩

/-- The state after an accepted query, above other terms. -/
lemma exists_run_query (mode : Mode) (h : parseStrict registry query = .ok (.group c))
    (terms : List Term) (enclosing : List Enclosing) (position : Nat) :
    ∃ s', run mode registry (idle terms enclosing) position query.toList = .ok s' ∧
      s'.quoting = .outside ∧ ¬ s'.LacksLeft ∧
      Over terms enclosing ((start.after registry 0 query.toList).completed registry)
        (s'.completed registry) := by
  obtain ⟨⟨hfaultless, hfinish⟩, -⟩ := (parseStrict_eq_ok_iff registry query _).mp h
  obtain ⟨hquoting, hleft, -⟩ := (finishFault?_eq_none_iff registry _ _).mp hfinish
  have hover := (over_start terms enclosing).after (hfaultless.staysAbove terms) position
  refine ⟨_, run_of_faultless ((over_start terms enclosing).faultless hfaultless position),
    hover.quoting_eq_outside hquoting, hover.not_lacksLeft hleft, ?_⟩
  exact hover.completed registry fun hl => absurd hl hleft

/-- A query with a space after it adds the parts of its tree to the innermost group. -/
lemma run_query (h : parseStrict registry query = .ok (.group c))
    (hp : EndsComplete registry query) (position : Nat) :
    run mode registry (idle terms enclosing) position (query.toList ++ [' ']) =
      .ok (idle (c.reverse ++ terms) enclosing) := by
  obtain ⟨s', hrun, hquoting, hleft, hover⟩ := exists_run_query mode h terms enclosing position
  rw [completed_after_query_eq_idle h hp] at hover
  refine run_append hrun (run_cons (step_blank _ hquoting hleft) ?_)
  rw [run, hover.eq_of_root]
  rfl

/-- A query in parentheses, with a space at its end, adds one group. -/
lemma run_group (h : parseStrict registry query = .ok (.group c))
    (hp : EndsComplete registry query) (position : Nat) :
    run mode registry (idle terms enclosing) position
        ('(' :: ((query.toList ++ [' ']) ++ [')'])) =
      .ok (idle (.group c :: terms) enclosing) := by
  refine run_cons (step_open position) (run_append (run_query h hp _)
    (run_cons (step_close _) ?_))
  rw [run, List.append_nil, List.reverse_reverse]

/-- A query at the end adds the parts of its tree to the root. -/
lemma exists_run_query_finish (mode : Mode) (h : parseStrict registry query = .ok (.group c))
    (terms : List Term) (position length : Nat) :
    ∃ s', run mode registry (idle terms []) position query.toList = .ok s' ∧
      s'.finish mode registry length = .ok (.group (terms.reverse ++ c)) := by
  obtain ⟨s', hrun, hquoting, hleft, hover⟩ := exists_run_query mode h terms [] position
  obtain ⟨pre, hcompleted⟩ := completed_after_query h
  rw [hcompleted] at hover
  refine ⟨s', hrun, ?_⟩
  rw [finish_of_completed hquoting hleft hover.eq_of_root, List.reverse_append,
    List.reverse_reverse]

end Scanner

open Scanner

/-- Accepted queries with a blank between them are accepted, and the parts of their trees stand side
by side; an accepted query in parentheses, with a blank at its end, is accepted as one group. -/
theorem parseStrict_juxtapose {registry : Registry} {q₁ q₂ : String} {c₁ c₂ : List Term}
    (h₁ : parseStrict registry q₁ = .ok (.group c₁))
    (h₂ : parseStrict registry q₂ = .ok (.group c₂)) (hp : EndsComplete registry q₁) :
    parseStrict registry (q₁ ++ " " ++ q₂) = .ok (.group (c₁ ++ c₂)) ∧
      parseStrict registry ("(" ++ q₁ ++ " )") = .ok (.group [.group c₁]) := by
  constructor
  · have hrun₁ : start.run .strict registry 0 (q₁.toList ++ [' ']) =
        .ok (idle (c₁.reverse ++ []) []) := run_query h₁ hp 0
    obtain ⟨s', hrun₂, hfinish⟩ := exists_run_query_finish .strict h₂ (c₁.reverse ++ [])
      (0 + (q₁.toList ++ [' ']).length) (q₁ ++ " " ++ q₂).toList.length
    have hlist : (q₁ ++ " " ++ q₂).toList = q₁.toList ++ [' '] ++ q₂.toList := by simp
    rw [parseStrict, scan, hlist, run_append hrun₁ hrun₂, ← hlist]
    simpa using hfinish
  · have hlist : ("(" ++ q₁ ++ " )").toList = '(' :: ((q₁.toList ++ [' ']) ++ [')']) := by simp
    have hrun : start.run .strict registry 0 ('(' :: ((q₁.toList ++ [' ']) ++ [')'])) =
        .ok (idle [.group c₁] []) := run_group h₁ hp 0
    rw [parseStrict, scan, hlist, hrun]
    exact finish_idle [.group c₁] _

/-- A disjunction at the end of a query is closed by the blank, whatever the next query begins
with. -/
theorem parseStrict_juxtapose_or :
    ∃ q₁ q₂ c₁ c₂, parseStrict Registry.builtin q₁ = .ok (.group c₁) ∧
      parseStrict Registry.builtin q₂ = .ok (.group c₂) ∧ EndsComplete Registry.builtin q₁ ∧
      c₁ = [.or (.name "a") (.neg (.name "b c"))] ∧ c₂ = [.group [.name "d"], .name "e"] ∧
      parseStrict Registry.builtin (q₁ ++ " " ++ q₂) = .ok (.group (c₁ ++ c₂)) ∧
      parseStrict Registry.builtin ("(" ++ q₁ ++ " )") = .ok (.group [.group c₁]) := by
  have h₁ : parseStrict Registry.builtin "a | !\"b c\"" =
      .ok (.group [.or (.name "a") (.neg (.name "b c"))]) := rfl
  have h₂ : parseStrict Registry.builtin "(d )e" =
      .ok (.group [.group [.name "d"], .name "e"]) := rfl
  have hp : EndsComplete Registry.builtin "a | !\"b c\"" := ⟨_, _, rfl, rfl, rfl⟩
  exact ⟨_, _, _, _, h₁, h₂, hp, rfl, rfl, parseStrict_juxtapose h₁ h₂ hp⟩

end CardSearch.Query
