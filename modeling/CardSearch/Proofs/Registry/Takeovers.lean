import CardSearch.Event
import CardSearch.Proofs.Registry.History

/-!
# Takeovers

Registering a filter reports every alias that another filter held until then, once each, in the
order in which the aliases first stand in the list of the filter.

While the aliases are claimed one after the other, the table already gives the claimed ones to the
number of the new filter. No filter is stored under that number yet, so an alias that is repeated
finds nobody whom it could be taken from.
-/

namespace CardSearch

namespace Registry

variable {filters : List Filter} {owners : Owners} {a : String}

/-- What is reported of an alias that is claimed while a table is in force: that it is taken from
the filter to which the table gives it. -/
def taken (filters : List Filter) (owners : Owners) (a : String) : Option Takeover :=
  ((owners.lookup a).bind (filters[·]?)).map fun previous => ⟨a, previous.name⟩

lemma taken_of_lookup_eq {owners' : Owners} (h : owners.lookup a = owners'.lookup a) :
    taken filters owners a = taken filters owners' a := by
  rw [taken, taken, h]

lemma taken_eq_none (h : owners.lookup a = some filters.length) :
    taken filters owners a = none := by
  rw [taken, h, Option.bind_some, List.getElem?_eq_none (Nat.le_refl _), Option.map_none]

/-! ### Claiming aliases -/

lemma takeovers_claim_cons (index : Nat) (rest : List String) :
    (claim filters index owners (a :: rest)).2 =
      (taken filters owners a).toList ++ (claim filters index ((a, index) :: owners) rest).2 := by
  rw [claim, taken]
  dsimp only
  cases (owners.lookup a).bind (filters[·]?) <;> rfl

lemma takeovers_claim_append_singleton (index : Nat) (aliases : List String) :
    (claim filters index owners (aliases ++ [a])).2 =
      (claim filters index owners aliases).2 ++
        (taken filters (claim filters index owners aliases).1 a).toList := by
  induction aliases generalizing owners with
  | nil =>
    rw [List.nil_append, takeovers_claim_cons]
    exact List.append_nil _
  | cons b rest ih =>
    rw [List.cons_append, takeovers_claim_cons, takeovers_claim_cons, ih, List.append_assoc,
      claim_cons]

/-- Only the first of equal aliases can be taken over. -/
lemma takeovers_claim (owners : Owners) (aliases : List String) :
    (claim filters filters.length owners aliases).2 =
      aliases.eraseDups.filterMap (taken filters owners) := by
  -- From the end of the list, where the table is the one that all aliases before have left.
  induction aliases using List.reverseRecOn with
  | nil => rfl
  | append_singleton aliases a ih =>
    have hlookup := lookup_claim filters filters.length owners a aliases
    rw [takeovers_claim_append_singleton, ih, List.eraseDups_append, List.filterMap_append]
    refine congrArg (aliases.eraseDups.filterMap (taken filters owners) ++ ·) ?_
    by_cases ha : a ∈ aliases
    · have hrest : [a].removeAll aliases = [] := by simp [List.removeAll, ha]
      rw [if_pos ha] at hlookup
      rw [hrest, taken_eq_none hlookup]
      rfl
    · have hrest : [a].removeAll aliases = [a] := by simp [List.removeAll, ha]
      rw [if_neg ha] at hlookup
      rw [hrest, taken_of_lookup_eq hlookup, List.eraseDups_cons]
      cases h : taken filters owners a <;> simp [h]

/-! ### Registering filters -/

/-- In a registry the taken aliases are those that lead to a filter. -/
lemma takeovers_eq (r : Registry) (f : Filter) :
    r.takeovers f = f.aliases.eraseDups.filterMap fun a =>
      (r.lookup a).map fun previous => ⟨a, previous.name⟩ :=
  takeovers_claim r.owners f.aliases

lemma takeoversAll_append (r : Registry) (fs gs : List Filter) :
    r.takeoversAll (fs ++ gs) = r.takeoversAll fs ++ (r.registerAll fs).takeoversAll gs := by
  induction fs generalizing r with
  | nil => rfl
  | cons f fs ih =>
    rw [List.cons_append, takeoversAll, ih, takeoversAll, List.append_assoc]
    rfl

/-- After any registrations, registering a filter reports a warning for each distinct alias of the
filter that led somewhere just before, with the name of the filter to which it led. Nothing else is
added to what was reported before. -/
theorem takeovers_reported_once (fs : List Filter) (f : Filter) :
    (((empty.registerAll fs).takeovers f).map fun t =>
        ((Event.aliasTakenOver t).level, (Event.aliasTakenOver t).details)) =
      (f.aliases.eraseDups.filterMap fun a =>
        ((empty.registerAll fs).lookup a).map fun previous =>
          (.warn, [("alias", .text a), ("previous", .text previous.name)])) ∧
    empty.takeoversAll (fs ++ [f]) =
      empty.takeoversAll fs ++ (empty.registerAll fs).takeovers f := by
  constructor
  · rw [takeovers_eq, List.map_filterMap]
    simp only [Option.map_map]
    rfl
  · rw [takeoversAll_append]
    exact congrArg (empty.takeoversAll fs ++ ·) (List.append_nil _)

/-- The third alias of the new filter led to the second filter, which had taken it from the first
one, and the alias before it is new. -/
example :
    ((empty.registerAll
        [⟨["r", "rank"], .field "rank"⟩, ⟨["x", "rank"], .field "x"⟩]).takeovers
      ⟨["new", "new", "rank", "r", "rank"], .field "new"⟩) = [⟨"rank", "x"⟩, ⟨"r", "r"⟩] := by
  decide +kernel

end Registry

end CardSearch
