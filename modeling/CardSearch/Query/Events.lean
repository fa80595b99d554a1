import CardSearch.Event
import CardSearch.Query.Parse

/-!
# Events of a query

What is reported while a query is read. The events follow the scanner from state to state; they
end where the query is refused.
-/

namespace CardSearch.Query

namespace Scanner

/-- Reported when the word is finished. -/
def completionEvents (registry : Registry) (s : Scanner) : List Event :=
  (s.leaf? registry).toList.map .wordCompleted

/-- Reported when a closing parenthesis is repaired. -/
def closeEvents (s : Scanner) (position : Nat) : List Event :=
  (if s.word.isEmpty then [] else [.wordDropped position s.word]) ++
    if s.enclosing.isEmpty then [.closeIgnored position] else []

/-- Reported at one character. In strict mode a closing parenthesis is never repaired. -/
def stepEvents (mode : Mode) (registry : Registry) (s : Scanner) (position : Nat) (c : Char) :
    List Event :=
  match s.role c, mode with
  | .openGroup,  _        => s.completionEvents registry
  | .blank,      _        => s.completionEvents registry
  | .closeGroup, .lenient => s.closeEvents position
  | _,           _        => []

/-- Reported at the end of a query of the given length. -/
def finishEvents (mode : Mode) (registry : Registry) (s : Scanner) (length : Nat) : List Event :=
  match mode with
  | .lenient =>
    s.completionEvents registry ++
      if s.enclosing.isEmpty then [] else [.groupsDropped s.enclosing.length]
  | .strict  => if (s.quoteFault? length).isSome then [] else s.completionEvents registry

/-- Reported from the character at a position on. -/
def events (mode : Mode) (registry : Registry) (s : Scanner) (position : Nat) :
    List Char → List Event
  | []      => s.finishEvents mode registry position
  | c :: cs =>
    s.stepEvents mode registry position c ++
      match s.step mode registry position c with
      | .error _ => []
      | .ok s    => s.events mode registry (position + 1) cs

end Scanner

/-- Everything that is reported while a query is read. -/
def events (mode : Mode) (registry : Registry) (query : String) : List Event :=
  Scanner.start.events mode registry 0 query.toList ++
    match parseIn mode registry query with
    | .error _ => []
    | .ok tree => [.queryParsed query tree]

end CardSearch.Query
