import CardSearch.CommandLine.Options
import CardSearch.Database
import CardSearch.Query.Events
import CardSearch.Report

/-!
# Running a command line

One run reads the query, loads the database, searches it and writes the results. What was written
and reported stays when a run fails.
-/

namespace CardSearch.CommandLine

/-- Why a run fails. -/
inductive Failure where
  /-- The query is refused. -/
  | badQuery (query : String) (e : SyntaxError)
  /-- No path of a database was given. -/
  | noDatabase
  /-- The database cannot be loaded. -/
  | badDatabase (e : Database.LoadError)
  /-- A record cannot be matched against the query. -/
  | badSearch (query : String) (e : SearchError)
  /-- Sorting comes to nothing. -/
  | noOrder
deriving DecidableEq, Repr

namespace Failure

/-- The text of a failure. -/
def message : Failure → String
  | .badQuery query _  => "Invalid query '" ++ query ++ "'"
  | .noDatabase        => "No card database given, pass --cards PATH"
  | .badDatabase e     => e.message
  | .badSearch query _ => "Search for '" ++ query ++ "' failed"
  | .noOrder           =>
    "user-provided comparison function does not correctly implement a total order"

/-- The error of the search behind a failure. -/
def cause? : Failure → Option SearchError
  | .badQuery _ e  => some (.badSyntax e)
  | .badSearch _ e => some e
  | _              => none

/-- The exit code of a run that fails. -/
def exitCode : Failure → Nat
  | .noOrder => 101
  | _        => 1

end Failure

/-- Where a run writes to. -/
structure Console where
  out : String
  log : List Event

/-- Before anything is written. -/
def Console.blank : Console := ⟨"", []⟩

/-- A run that has a result or fails, with what it writes. -/
abbrev Run := ExceptT Failure (StateM Console)

namespace Run

/-- Writes a text. -/
def print (s : String) : Run Unit := modify fun c => { c with out := c.out ++ s }

/-- Reports events. -/
def report (events : List Event) : Run Unit := modify fun c => { c with log := c.log ++ events }

/-- Takes a result, or fails with its error. -/
def orFail {ε α : Type} (failure : ε → Failure) : Except ε α → Run α
  | .ok a    => pure a
  | .error e => throw (failure e)

end Run

namespace Options

/-- The tree of the query. -/
def readQuery (o : Options) : Run Term := do
  Run.report (o.takeovers.map .aliasTakenOver)
  Run.report (Query.events o.mode o.registry o.query)
  Run.orFail (.badQuery o.query) (Query.parseIn o.mode o.registry o.query)

/-- The cards of the database. -/
def loadCards (o : Options) (fs : FileSystem) : Run (List Card) := do
  match o.cards? with
  | none      => throw .noDatabase
  | some path =>
    Run.report (Database.events fs path)
    Run.orFail .badDatabase (Database.load fs path)

/-- The cards that match a tree. -/
def search (o : Options) (tree : Term) (cards : List Card) : Run (List Card) := do
  match o.environment.search tree cards with
  | none        => throw .noOrder
  | some result =>
    let found ← Run.orFail (.badSearch o.query) result
    Run.report [.searchFinished found.length o.unique]
    return found

/-- Runs a command line on a file system. -/
def run (o : Options) (fs : FileSystem) : Run Unit := do
  let tree ← o.readQuery
  if o.explain then
    Run.print (tree.display ++ "\n")
  else
    let cards ← o.loadCards fs
    let found ← o.search tree cards
    Run.print (if o.json then Report.json found else Report.text o.environment found)

end Options

end CardSearch.CommandLine
