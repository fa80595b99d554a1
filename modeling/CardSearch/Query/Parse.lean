import CardSearch.Query.Scanner

/-!
# Reading queries

The tree of a query: leniently, which never fails, or strictly, where the first fault is the
result.
-/

namespace CardSearch.Query

/-- The tree of the characters of a query. -/
def scan (mode : Mode) (registry : Registry) (cs : List Char) : Except SyntaxError Term :=
  match Scanner.start.run mode registry 0 cs with
  | .error e => .error e
  | .ok s    => s.finish mode registry cs.length

/-- The tree of a query, repaired where it is malformed. A lenient scan never fails, so the second
case is never taken. -/
def parse (registry : Registry) (query : String) : Term :=
  match scan .lenient registry query.toList with
  | .ok t    => t
  | .error _ => .group []

/-- The tree of a query, or its first fault. -/
def parseStrict (registry : Registry) (query : String) : Except SyntaxError Term :=
  scan .strict registry query.toList

/-- The tree of a query in the given mode. -/
def parseIn (mode : Mode) (registry : Registry) (query : String) : Except SyntaxError Term :=
  match mode with
  | .lenient => .ok (parse registry query)
  | .strict  => parseStrict registry query

end CardSearch.Query
