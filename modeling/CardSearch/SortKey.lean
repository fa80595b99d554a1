import CardSearch.Record

/-!
# Sort keys

Results are ordered by fields, the most significant first. A field that is absent comes last in
either direction, and values that cannot be compared count as equal.
-/

namespace CardSearch

/-- The direction of a sort. -/
inductive Direction where
  | ascending
  | descending
deriving DecidableEq, Repr

namespace Direction

/-- Turns an order round if the direction is downward. -/
def apply : Direction → Ordering → Ordering
  | .ascending,  o => o
  | .descending, o => o.swap

/-- How a direction is written. -/
def token : Direction → String
  | .ascending  => "asc"
  | .descending => "desc"

end Direction

/-- A field to sort by, and the direction. -/
structure SortKey where
  field : String
  direction : Direction
deriving DecidableEq, Repr

namespace SortKey

/-- The order of two values by a key. -/
def compare? (k : SortKey) (a b : Value) : Option Ordering :=
  match a, b with
  | .absent, _ => a.compare? b
  | _, .absent => a.compare? b
  | _, _       => (a.compare? b).map k.direction.apply

/-- The key that a text stands for: a field, with its direction after the last colon. Any other
ending belongs to the field. -/
def read (s : String) : SortKey :=
  let cs := s.toList.reverse
  match cs.dropWhile (· ≠ ':') with
  | []         => ⟨s, .ascending⟩
  | _ :: field =>
    let field := String.ofList field.reverse
    match String.ofList (cs.takeWhile (· ≠ ':')).reverse with
    | "asc"  => ⟨field, .ascending⟩
    | "desc" => ⟨field, .descending⟩
    | _      => ⟨s, .ascending⟩

/-- The order of two records by a list of keys: the first key that tells them apart decides. -/
def compareRecords : List SortKey → Record → Record → Ordering
  | [],      _, _ => .eq
  | k :: ks, a, b =>
    match k.compare? (a.field k.field) (b.field k.field) with
    | some .lt => .lt
    | some .gt => .gt
    | _        => compareRecords ks a b

end SortKey

end CardSearch
