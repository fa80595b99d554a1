import CardSearch.Proofs.Query.Frame
import CardSearch.Proofs.Registry.History

/-!
# What the registry decides

A registry decides what the filter terms of a query resolve to, and nothing else. Resolving the
filter terms of a tree anew, `Term.resolve`, turns the tree that is read with one registry into the
tree that is read with another. Every operation of the scanner commutes with it, in both modes, and
neither the faults of a query nor their positions see it.
-/

namespace CardSearch

namespace Term

/-! ### Terms -/

mutual
/-- Replaces what the filter terms resolve to, by their name and by what they resolved to before. -/
def mapFilters (g : String → Option Filter → Option Filter) : Term → Term
  | .name word          => .name word
  | .neg t              => .neg (t.mapFilters g)
  | .filter a f op word => .filter a (g a f) op word
  | .or l r             => .or (l.mapFilters g) (r.mapFilters g)
  | .group ts           => .group (mapFiltersAll g ts)

/-- Replaces what the filter terms of some terms resolve to. -/
def mapFiltersAll (g : String → Option Filter → Option Filter) : List Term → List Term
  | []      => []
  | t :: ts => t.mapFilters g :: mapFiltersAll g ts
end

/-- A term without what its filter terms resolve to. -/
def erased : Term → Term := mapFilters fun _ _ => none

/-- The filter terms resolve as a registry says. -/
def resolve (registry : Registry) : Term → Term := mapFilters fun a _ => registry.lookup a

/-- The filter terms with an alias of a filter resolve to it. -/
def rebind (f : Filter) : Term → Term :=
  mapFilters fun a resolved => if a ∈ f.aliases then some f else resolved

variable (g h : String → Option Filter → Option Filter)

@[simp] lemma mapFilters_group (ts : List Term) :
    (Term.group ts).mapFilters g = .group (ts.map (mapFilters g)) := by
  rw [mapFilters]
  congr 1
  induction ts with
  | nil => rfl
  | cons t ts ih => rw [mapFiltersAll, ih, List.map_cons]

lemma mapFilters_mapFilters (t : Term) :
    (t.mapFilters g).mapFilters h = t.mapFilters fun a f => h a (g a f) := by
  match t with
  | .name word => rfl
  | .neg t => simp only [mapFilters, mapFilters_mapFilters t]
  | .filter a f op word => rfl
  | .or l r => simp only [mapFilters, mapFilters_mapFilters l, mapFilters_mapFilters r]
  | .group ts =>
    simp only [mapFilters_group, List.map_map, Term.group.injEq]
    exact List.map_congr_left fun t _ => mapFilters_mapFilters t

lemma erased_resolve (registry : Registry) (t : Term) : (t.resolve registry).erased = t.erased :=
  mapFilters_mapFilters _ _ t

/-- Registering a filter rebinds the terms that have one of its aliases. -/
lemma rebind_resolve {r : Registry} (hr : r.InRange) (f : Filter) (t : Term) :
    (t.resolve r).rebind f = t.resolve (r.register f) := by
  rw [rebind, resolve, mapFilters_mapFilters, resolve]
  congr 1
  funext a _
  rw [hr.lookup_register]

end Term

namespace Query

namespace Scanner

/-- The terms that are kept resolve as a registry says. -/
def resolve (registry : Registry) (s : Scanner) : Scanner :=
  { s with
    terms := s.terms.map (Term.resolve registry)
    enclosing := s.enclosing.map fun e =>
      { e with before := e.before.map (Term.resolve registry) } }

variable (r r' : Registry) (mode : Mode) (s : Scanner) (position : Nat) (c : Char) (cs : List Char)

/-! ### Words and groups -/

lemma sameTyping_resolve : SameTyping s (s.resolve r') := ⟨rfl, rfl, rfl⟩

lemma leaf?_resolve : (s.resolve r').leaf? r' = (s.leaf? r).map (Term.resolve r') := by
  have hnegated : (s.resolve r').negated = s.negated := rfl
  rw [leaf?, leaf?, (s.sameTyping_resolve r').word, (s.sameTyping_resolve r').pre, hnegated]
  split_ifs
  · rfl
  · cases s.pre <;> rfl
  · cases s.pre <;> rfl

lemma attach_resolve (leaf : Term) :
    (s.resolve r').attach mode (leaf.resolve r') = (s.attach mode leaf).map (resolve r') := by
  simp only [attach, resolve]
  cases s.bar with
  | none => rfl
  | some p =>
    cases s.terms with
    | nil => cases mode <;> rfl
    | cons left rest => rfl

lemma completeWord_resolve :
    (s.resolve r').completeWord mode r' = (s.completeWord mode r).map (resolve r') := by
  rw [completeWord, completeWord, leaf?_resolve r]
  cases s.leaf? r with
  | none => rfl
  | some leaf => exact attach_resolve r' mode s leaf

lemma closeFault?_resolve : (s.resolve r').closeFault? = s.closeFault? := by
  simp only [closeFault?, resolve, typed, List.isEmpty_map]

lemma closeInnermost_resolve : (s.resolve r').closeInnermost = s.closeInnermost.resolve r' := by
  rw [closeInnermost, closeInnermost]
  cases he : s.enclosing with
  | nil => simp [resolve, he]
  | cons e es => simp [resolve, he, Term.resolve]

lemma closeGroup_resolve :
    (s.resolve r').closeGroup mode position = (s.closeGroup mode position).map (resolve r') := by
  simp only [closeGroup, closeFault?_resolve, closeInnermost_resolve]
  cases mode with
  | lenient => rfl
  | strict => cases s.closeFault? <;> rfl

/-! ### Steps and runs -/

lemma operator_resolve : (s.resolve r').operator c = (s.operator c).resolve r' := by
  rw [operator, operator, (s.sameTyping_resolve r').word, (s.sameTyping_resolve r').pre]
  cases s.pre <;> dsimp only <;> split_ifs <;> rfl

lemma step_resolve :
    (s.resolve r').step mode r' position c = (s.step mode r position c).map (resolve r') := by
  rw [step, step, (s.sameTyping_resolve r').role, completeWord_resolve r]
  cases s.role c
  case openGroup => cases s.completeWord mode r <;> rfl
  case closeGroup => exact closeGroup_resolve r' mode s position
  case operator => exact congrArg Except.ok (operator_resolve r' s c)
  all_goals rfl

/-- A run with another registry keeps the same terms, resolved by that registry, and stops at the
same faults. -/
lemma run_resolve :
    (s.resolve r').run mode r' position cs = (s.run mode r position cs).map (resolve r') := by
  induction cs generalizing s position with
  | nil => rfl
  | cons c cs ih =>
    rw [run, run, step_resolve r]
    cases s.step mode r position c with
    | error e => rfl
    | ok s => exact ih s (position + 1)

lemma rootTerms_resolve : (s.resolve r').rootTerms = s.rootTerms.map (Term.resolve r') := by
  rw [rootTerms, rootTerms, resolve, List.getLast?_map]
  cases s.enclosing.getLast? <;> simp

lemma pendingFault?_resolve : (s.resolve r').pendingFault? = s.pendingFault? := by
  rw [pendingFault?, pendingFault?, resolve, List.getLast?_map]
  cases s.enclosing.getLast? <;> rfl

lemma finish_resolve (length : Nat) :
    (s.resolve r').finish mode r' length = (s.finish mode r length).map (Term.resolve r') := by
  have hgroup (s : Scanner) :
      Term.group (s.resolve r').rootTerms = (Term.group s.rootTerms).resolve r' := by
    rw [rootTerms_resolve, Term.resolve, Term.mapFilters_group]
  cases mode with
  | lenient =>
    rw [finish, finish, completeWord_resolve r]
    cases s.completeWord .lenient r with
    | error e => rfl
    | ok s => exact congrArg Except.ok (hgroup s)
  | strict =>
    have hquote : (s.resolve r').quoteFault? length = s.quoteFault? length := rfl
    simp only [finish, hquote, completeWord_resolve r]
    cases s.quoteFault? length with
    | some e => rfl
    | none =>
      cases s.completeWord .strict r with
      | error e => rfl
      | ok s =>
        simp only [Except.map, pendingFault?_resolve]
        cases s.pendingFault? with
        | some e => rfl
        | none => exact congrArg Except.ok (hgroup s)

end Scanner

/-! ### Queries -/

variable (r r' : Registry) (mode : Mode) (query : String)

lemma scan_resolve (cs : List Char) : scan mode r' cs = (scan mode r cs).map (Term.resolve r') := by
  have hrun := Scanner.run_resolve r r' mode Scanner.start 0 cs
  have hstart : Scanner.start.resolve r' = Scanner.start := rfl
  rw [hstart] at hrun
  rw [scan, scan, hrun]
  cases Scanner.start.run mode r 0 cs with
  | error e => rfl
  | ok s => exact Scanner.finish_resolve r r' mode s cs.length

lemma parse_resolve : parse r' query = (parse r query).resolve r' := by
  rw [parse, parse, scan_resolve r]
  cases scan .lenient r query.toList with
  | ok t => rfl
  | error e => rfl

lemma parseIn_resolve : parseIn mode r' query = (parseIn mode r query).map (Term.resolve r') := by
  cases mode with
  | lenient => exact congrArg Except.ok (parse_resolve r r' query)
  | strict => exact scan_resolve r r' .strict query.toList

variable {r} in
/-- The filter terms of a tree already resolve as the registry says that it was read with, so that
only the aliases of a new filter have to be looked up again. -/
lemma parseIn_register (hr : r.InRange) (f : Filter) :
    parseIn mode (r.register f) query = (parseIn mode r query).map (Term.rebind f) := by
  have hself := parseIn_resolve r r mode query
  rw [parseIn_resolve r]
  cases ht : parseIn mode r query with
  | error e => rfl
  | ok t =>
    rw [ht] at hself
    have hresolved : t = t.resolve r := Except.ok.inj hself
    change Except.ok (t.resolve (r.register f)) = .ok (t.rebind f)
    rw [← Term.rebind_resolve hr, ← hresolved]

/-- Two registries read the same tree up to what its filter terms resolve to, and refuse the same
queries for the same faults. Registering a filter rebinds the terms with one of its aliases and
leaves everything else as it was. -/
theorem erased_parse_eq_erased_parse :
    (parse r query).erased = (parse r' query).erased ∧
    ((∃ t t', parseStrict r query = .ok t ∧ parseStrict r' query = .ok t' ∧
        t.erased = t'.erased) ∨
      ∃ e, parseStrict r query = .error e ∧ parseStrict r' query = .error e) ∧
    ∀ (fs : List Filter) (f : Filter),
      parseIn mode ((Registry.empty.registerAll fs).register f) query =
        (parseIn mode (Registry.empty.registerAll fs) query).map (Term.rebind f) := by
  refine ⟨?_, ?_, fun fs f => ?_⟩
  · rw [parse_resolve r r', Term.erased_resolve]
  · have hstrict : parseStrict r' query = (parseStrict r query).map (Term.resolve r') :=
      scan_resolve r r' .strict query.toList
    cases ht : parseStrict r query with
    | ok t =>
      rw [ht] at hstrict
      exact .inl ⟨t, _, rfl, hstrict, (Term.erased_resolve r' t).symm⟩
    | error e =>
      rw [ht] at hstrict
      exact .inr ⟨e, rfl, hstrict⟩
  · exact parseIn_register mode query (Registry.records_empty.registerAll fs).inRange f

end Query

end CardSearch
