import CardSearch.Number

/-!
# JSON documents

A document as a tree. An object keeps its members in the order of their keys, each key once; when
a key is given again its value is replaced.
-/

namespace CardSearch

/-- The number of a document. Whole numbers that fit sixty-four bits stay whole. -/
inductive Numeral where
  | integer (n : Int)
  | double (x : Number)
deriving DecidableEq, Repr

/-- The nearest binary64 number. -/
def Numeral.value : Numeral → Number
  | .integer n => .ofInt n
  | .double x  => x

/-- A JSON document. -/
inductive Json where
  | null
  | bool (b : Bool)
  | number (n : Numeral)
  | text (s : String)
  | array (items : List Json)
  | object (members : List (String × Json))
deriving Repr, Inhabited

namespace Json

/-- The members of an object. -/
abbrev Members := List (String × Json)

/-- Sets a member, keeping the keys in order. -/
def Members.insert (key : String) (value : Json) : Members → Members
  | []               => [(key, value)]
  | (k, v) :: rest =>
    match compare key k with
    | .lt => (key, value) :: (k, v) :: rest
    | .eq => (key, value) :: rest
    | .gt => (k, v) :: Members.insert key value rest

/-- The value under a key. -/
def Members.get? (members : Members) (key : String) : Option Json := members.lookup key

/-- The members given one after the other. -/
def Members.ofList (ms : List (String × Json)) : Members :=
  ms.foldl (fun acc m => Members.insert m.1 m.2 acc) []

end Json

end CardSearch
