import CardSearch.CommandLine.FilterSpec
import CardSearch.Event
import CardSearch.Query.Scanner

/-!
# Options

What the command line asks for. What was not given has a default.
-/

namespace CardSearch.CommandLine

/-- The settings that were given. -/
structure Options where
  query? : Option String := none
  /-- The path of the database. -/
  cards? : Option Path := none
  sorting : List SortKey := []
  grouping : List String := []
  unique? : Option Unique := none
  filters : List FilterSpec := []
  /-- Refuses malformed queries instead of repairing them. -/
  strict : Bool := false
  /-- Shows the tree of the query instead of searching. -/
  explain : Bool := false
  /-- Shows the results as a JSON array. -/
  json : Bool := false
  /-- How often more details were asked for. -/
  verbosity : Nat := 0
deriving DecidableEq, Repr, Inhabited

namespace Options

/-- The query, by default the empty one. -/
def query (o : Options) : String := o.query?.getD ""

/-- The rows that a card produces, by default one for each printing. -/
def unique (o : Options) : Unique := o.unique?.getD .printings

/-- How malformed queries are taken. -/
def mode (o : Options) : Query.Mode := if o.strict then .strict else .lenient

/-- The last level of events that is shown. -/
def level (o : Options) : Level := .ofVerbosity o.verbosity

/-- The specified filters. -/
def specified (o : Options) : List Filter := o.filters.map FilterSpec.toFilter

/-- The filters that are always there, and after them the specified ones. -/
def registry (o : Options) : Registry := Registry.builtin.registerAll o.specified

/-- The aliases that the specified filters take over. -/
def takeovers (o : Options) : List Takeover := Registry.builtin.takeoversAll o.specified

/-- How the results are shown. -/
def environment (o : Options) : Environment := ⟨o.sorting, o.grouping, o.unique⟩

end Options

end CardSearch.CommandLine
