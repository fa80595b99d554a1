import CardSearch.CommandLine.Run
import Mathlib.Tactic.Common

/-!
# What a run prints

A run prints at its end and nowhere else. Reading the query, loading the database and searching it
can fail, but they only report events. So a run that fails has printed nothing, whichever step it
fails in.
-/

namespace CardSearch.CommandLine

namespace Run

variable {α β : Type}

/-- What a run that begins with a console ends with, and the console that it leaves. -/
def on (x : Run α) (c : Console) : Except Failure α × Console := x.run.run c

lemma on_print (s : String) (c : Console) :
    (print s).on c = (.ok (), { c with out := c.out ++ s }) := rfl

lemma on_report (events : List Event) (c : Console) :
    (report events).on c = (.ok (), { c with log := c.log ++ events }) := rfl

lemma on_orFail {ε : Type} (failure : ε → Failure) (result : Except ε α) (c : Console) :
    (orFail failure result).on c = (result.mapError failure, c) := by
  cases result <;> rfl

lemma on_bind_of_ok {x : Run α} {c c' : Console} {a : α} (h : x.on c = (.ok a, c'))
    (next : α → Run β) : (x >>= next).on c = (next a).on c' := by
  change (ExceptT.bindCont next (x.on c).1).run (x.on c).2 = _
  rw [h]
  rfl

lemma on_bind_of_error {x : Run α} {c c' : Console} {failure : Failure}
    (h : x.on c = (.error failure, c')) (next : α → Run β) :
    (x >>= next).on c = (.error failure, c') := by
  change (ExceptT.bindCont next (x.on c).1).run (x.on c).2 = _
  rw [h]
  rfl

/-! ### Runs that print nothing -/

/-- Prints nothing, whatever it ends with. -/
def Quiet (x : Run α) : Prop := ∀ c, (x.on c).2.out = c.out

/-- Has printed nothing if it fails. -/
def QuietIfFailed (x : Run α) : Prop :=
  ∀ c failure, (x.on c).1 = .error failure → (x.on c).2.out = c.out

lemma quiet_pure (a : α) : Quiet (pure a) := fun _ => rfl

lemma quiet_throw (failure : Failure) : Quiet (throw failure : Run α) := fun _ => rfl

lemma quiet_report (events : List Event) : Quiet (report events) := fun _ => rfl

lemma quiet_orFail {ε : Type} (failure : ε → Failure) (result : Except ε α) :
    Quiet (orFail failure result) := by
  intro c
  rw [on_orFail]

lemma quietIfFailed_print (s : String) : QuietIfFailed (print s) := by
  intro c failure h
  rw [on_print] at h
  cases h

lemma Quiet.bind {x : Run α} {next : α → Run β} (hx : Quiet x) (hnext : ∀ a, Quiet (next a)) :
    Quiet (x >>= next) := by
  intro c
  have hout := hx c
  cases h : x.on c with
  | mk result c' =>
    rw [h] at hout
    cases result with
    | error failure => rw [on_bind_of_error h, hout]
    | ok a => rw [on_bind_of_ok h, hnext a c', hout]

/-- What can fail comes before what prints. -/
lemma Quiet.bind_quietIfFailed {x : Run α} {next : α → Run β} (hx : Quiet x)
    (hnext : ∀ a, QuietIfFailed (next a)) : QuietIfFailed (x >>= next) := by
  intro c failure hfailed
  have hout := hx c
  cases h : x.on c with
  | mk result c' =>
    rw [h] at hout
    cases result with
    | error e => rw [on_bind_of_error h, hout]
    | ok a =>
      rw [on_bind_of_ok h] at hfailed ⊢
      rw [hnext a c' failure hfailed, hout]

end Run

namespace Options

open Run

variable (o : Options) (fs : FileSystem)

/-! ### The steps of a run -/

lemma quiet_readQuery : Quiet o.readQuery :=
  (quiet_report _).bind fun _ => (quiet_report _).bind fun _ => quiet_orFail _ _

lemma quiet_loadCards : Quiet (o.loadCards fs) := by
  unfold loadCards
  cases o.cards? with
  | none => exact quiet_throw _
  | some path => exact (quiet_report _).bind fun _ => quiet_orFail _ _

lemma quiet_search (tree : Term) (cards : List Card) : Quiet (o.search tree cards) := by
  unfold search
  cases o.environment.search tree cards with
  | none => exact quiet_throw _
  | some result =>
    exact (quiet_orFail _ _).bind fun _ => (quiet_report _).bind fun _ => quiet_pure _

lemma quietIfFailed_run : QuietIfFailed (o.run fs) := by
  apply o.quiet_readQuery.bind_quietIfFailed
  intro tree
  by_cases hexplain : o.explain = true
  · rw [if_pos hexplain]
    exact quietIfFailed_print _
  · rw [if_neg hexplain]
    apply (o.quiet_loadCards fs).bind_quietIfFailed
    intro cards
    apply (o.quiet_search tree cards).bind_quietIfFailed
    intro found
    exact quietIfFailed_print _

/-- What is reported before the database is looked for. -/
def queryEvents : List Event :=
  o.takeovers.map .aliasTakenOver ++ Query.events o.mode o.registry o.query

/-- Reading the query ends with its tree or its fault. -/
lemma on_readQuery (c : Console) : o.readQuery.on c =
    ((Query.parseIn o.mode o.registry o.query).mapError (.badQuery o.query),
      { c with log := c.log ++ o.queryEvents }) := by
  rw [readQuery, on_bind_of_ok (on_report _ c), on_bind_of_ok (on_report _ _), on_orFail,
    queryEvents, List.append_assoc]

/-- A run prints results only where it succeeds. A refused query is what a run fails with, and a
query that is to be shown is all that is printed, whatever stands in the file system. -/
theorem run_prints_only_if_ok (o : Options) (fs : FileSystem) (c : Console) :
    (∀ failure, ((o.run fs).on c).1 = .error failure → ((o.run fs).on c).2.out = c.out) ∧
    (∀ e, o.strict = true → Query.parseStrict o.registry o.query = .error e →
      ((o.run fs).on c).1 = .error (.badQuery o.query e)) ∧
    ∀ tree, o.explain = true → Query.parseIn o.mode o.registry o.query = .ok tree →
      ((o.run fs).on c).1 = .ok () ∧
        ((o.run fs).on c).2.out = c.out ++ (tree.display ++ "\n") := by
  have hread := o.on_readQuery c
  refine ⟨o.quietIfFailed_run fs c, ?_, ?_⟩
  · intro e hstrict he
    have hparse : Query.parseIn o.mode o.registry o.query = .error e := by
      rw [mode, if_pos hstrict]
      exact he
    rw [hparse] at hread
    rw [run, on_bind_of_error hread]
  · intro tree hexplain htree
    rw [htree] at hread
    rw [run, on_bind_of_ok hread, if_pos hexplain, on_print]
    exact ⟨rfl, rfl⟩

/-- The second card meets an unknown filter after the first one has matched. Another query is
refused for its last character, and a third one is shown without its parenthesis. -/
theorem run_prints_only_if_ok_three_queries :
    ∃ (searching refused shown : Options) (fs : FileSystem) (e : SyntaxError) (tree : Term),
      ((searching.run fs).on .blank).1 =
        .error (.badSearch "ant | power:3" (.unknownFilter "power")) ∧
      ((searching.run fs).on .blank).2.out = "" ∧
      refused.strict = true ∧ Query.parseStrict refused.registry refused.query = .error e ∧
      ((refused.run fs).on .blank).1 = .error (.badQuery refused.query e) ∧
      shown.explain = true ∧ Query.parseIn shown.mode shown.registry shown.query = .ok tree ∧
      ((shown.run fs).on .blank).1 = .ok () ∧
      ((shown.run fs).on .blank).2.out = "(and (not (r : \"rare\")))\n" := by
  let searching : Options :=
    { query? := some "ant | power:3", cards? := some (Text.bytes "cards.json") }
  let refused : Options := { query? := some "ant |", strict := true }
  let shown : Options := { query? := some "!r:rare )", explain := true }
  let fs : FileSystem :=
    .ofList [(Text.bytes "cards.json", .file (some "[\x7b\"name\": \"Ant\"\x7d, \x7b\x7d]".toUTF8))]
  let e : SyntaxError := ⟨4, .noRightOperand⟩
  let tree : Term := Query.parse shown.registry shown.query
  have hsearch : ((searching.run fs).on .blank).1 =
      .error (.badSearch "ant | power:3" (.unknownFilter "power")) := by decide +kernel
  have hrefused : Query.parseStrict refused.registry refused.query = .error e := by
    change Query.parseStrict Registry.builtin "ant |" = .error e
    rfl
  have hdisplay : "" ++ (tree.display ++ "\n") = "(and (not (r : \"rare\")))\n" := by
    decide +kernel
  obtain ⟨hok, hout⟩ := (run_prints_only_if_ok shown fs .blank).2.2 tree rfl rfl
  rw [← hdisplay]
  exact ⟨searching, refused, shown, fs, e, tree, hsearch,
    (run_prints_only_if_ok searching fs .blank).1 _ hsearch, rfl, hrefused,
    (run_prints_only_if_ok refused fs .blank).2.1 e rfl hrefused, rfl, rfl, hok, hout⟩

end Options

end CardSearch.CommandLine
