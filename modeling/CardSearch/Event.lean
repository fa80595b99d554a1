import CardSearch.Environment
import CardSearch.FileSystem.Basic
import CardSearch.Registry

/-!
# Events

What is reported while filters are registered, a query is read, cards are loaded and a search
runs.
-/

namespace CardSearch

/-- How much an event matters. -/
inductive Level where
  | warn
  | info
  | debug
  | trace
deriving DecidableEq, Repr

namespace Level

/-- How a level is written. -/
def token : Level → String
  | .warn  => "WARN"
  | .info  => "INFO"
  | .debug => "DEBUG"
  | .trace => "TRACE"

/-- How often details have to be asked for before a level is shown. -/
def verbosity : Level → Nat
  | .warn  => 0
  | .info  => 1
  | .debug => 2
  | .trace => 3

/-- The last level that is shown at a verbosity. -/
def ofVerbosity : Nat → Level
  | 0 => .warn
  | 1 => .info
  | 2 => .debug
  | _ => .trace

end Level

/-- Something that is reported. -/
inductive Event where
  | aliasTakenOver (t : Takeover)
  /-- A word became a leaf of the tree. -/
  | wordCompleted (leaf : Term)
  /-- A word was lost to the `)` at a position. -/
  | wordDropped (position : Nat) (word : String)
  /-- The `)` at a position closes nothing. -/
  | closeIgnored (position : Nat)
  /-- So many groups were open at the end of the query. -/
  | groupsDropped (unclosed : Nat)
  | queryParsed (query : String) (tree : Term)
  | fileRead (path : Path)
  | databaseLoaded (path : Path) (cards : Nat)
  | searchFinished (matched : Nat) (unique : Unique)

/-- A detail of an event. -/
inductive Detail where
  | number (n : Nat)
  | text (s : String)
deriving DecidableEq, Repr

namespace Event

/-- The level of an event. -/
def level : Event → Level
  | .aliasTakenOver _   => .warn
  | .wordCompleted _    => .trace
  | .databaseLoaded _ _ => .info
  | _                   => .debug

/-- What is said about an event. -/
def message : Event → String
  | .aliasTakenOver _   => "filter alias registered twice; last registration wins"
  | .wordCompleted _    => "completed word"
  | .wordDropped _ _    => "dropping word before ')'"
  | .closeIgnored _     => "ignoring unmatched ')'"
  | .groupsDropped _    => "dropping unclosed groups"
  | .queryParsed _ _    => "parsed query"
  | .fileRead _         => "read card file"
  | .databaseLoaded _ _ => "loaded card database"
  | .searchFinished _ _ => "search finished"

/-- The details of an event, each under its name. -/
def details : Event → List (String × Detail)
  | .aliasTakenOver t         => [("alias", .text t.name), ("previous", .text t.previous)]
  | .wordCompleted leaf       => [("term", .text leaf.display)]
  | .wordDropped p word       => [("position", .number p), ("word", .text word)]
  | .closeIgnored p           => [("position", .number p)]
  | .groupsDropped n          => [("unclosed", .number n)]
  | .queryParsed query tree   => [("query", .text query), ("tree", .text tree.display)]
  | .fileRead path            => [("path", .text (Text.ofBytes path))]
  | .databaseLoaded path n    => [("path", .text (Text.ofBytes path)), ("cards", .number n)]
  | .searchFinished n unique  => [("matched", .number n), ("unique", .text unique.token)]

end Event

end CardSearch
