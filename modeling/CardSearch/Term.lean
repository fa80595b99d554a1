import CardSearch.Error
import CardSearch.Filter

/-!
# Terms

A query is read into a tree. Its leaves are bare words, which are looked for in the name of a
record, and filter terms, which compare a field with a word.
-/

namespace CardSearch

/-- A query as a tree. -/
inductive Term where
  /-- A bare word. -/
  | name (word : String)
  /-- What its part is not. -/
  | neg (t : Term)
  /-- An alias, an operator and a word as they were written, and what the alias resolved to. -/
  | filter (a : String) (resolved : Option Filter) (op : String) (word : String)
  /-- At least one of two. -/
  | or (l r : Term)
  /-- All of its parts. -/
  | group (ts : List Term)
deriving BEq

namespace Term

/-! ### Terms as text -/

mutual
/-- A term as nested lists of words. -/
def display : Term → String
  | .name word          => Text.quoted word
  | .neg t              => "(not " ++ t.display ++ ")"
  | .filter a _ op word => "(" ++ a ++ " " ++ op ++ " " ++ Text.quoted word ++ ")"
  | .or l r             => "(or " ++ l.display ++ " " ++ r.display ++ ")"
  | .group ts           => "(and" ++ displayAll ts ++ ")"

/-- The parts of a group, each after a space. -/
def displayAll : List Term → String
  | []      => ""
  | t :: ts => " " ++ t.display ++ displayAll ts
end

/-! ### Matching -/

/-- Whether a word is part of a name, without regard to case. Only a text is a name. -/
def nameHolds (displayName : Value) (word : String) : Bool :=
  match displayName with
  | .text s => Text.occurs (Text.lower word) (Text.lower s)
  | _       => false

/-- Whether a record passes a filter term. The name has to be known and the operator supported. -/
def filterHolds (r : Record) (a : String) (resolved : Option Filter) (op word : String) :
    Except SearchError Bool :=
  match resolved with
  | none   => .error (.unknownFilter a)
  | some f =>
    match Operator.ofToken? op with
    | none   => .error (.unsupportedOperator op)
    | some o => .ok (f.holds r o word)

mutual
/-- Whether a record matches a term. What does not change the answer is not looked at, so an
error shows only in a part that is reached. -/
def holds (r : Record) : Term → Except SearchError Bool
  | .name word                 => .ok (nameHolds r.displayName word)
  | .neg t                     => (t.holds r).map (!·)
  | .filter a resolved op word => filterHolds r a resolved op word
  | .or l m                    =>
    match l.holds r with
    | .ok false => m.holds r
    | answer    => answer
  | .group ts                  => holdsAll r ts

/-- Whether a record matches every one of some terms. -/
def holdsAll (r : Record) : List Term → Except SearchError Bool
  | []      => .ok true
  | t :: ts =>
    match t.holds r with
    | .ok true => holdsAll r ts
    | answer   => answer
end

/-- A record matches some terms together if it matches each of them. -/
theorem holdsAll_eq_ok_true_iff (r : Record) (ts : List Term) :
    holdsAll r ts = .ok true ↔ ∀ t ∈ ts, t.holds r = .ok true := by
  induction ts with
  | nil => simp [holdsAll]
  | cons t ts ih =>
    rw [holdsAll, List.forall_mem_cons, ← ih]
    split
    next h => simp [h]
    next h =>
      constructor
      · intro ht
        exact absurd ht h
      · rintro ⟨ht, -⟩
        exact absurd ht h

end Term

end CardSearch
