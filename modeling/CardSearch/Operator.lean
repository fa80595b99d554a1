/-!
# Operators

The seven operators of a filter term. A query may hold any run of operator characters; only these
have a meaning.
-/

namespace CardSearch

/-- A comparison between the value of a field and a word. -/
inductive Operator where
  /-- `:`, containment for texts and equality for numbers. -/
  | has
  /-- `=`. -/
  | eq
  /-- `!=`. -/
  | ne
  /-- `>`. -/
  | gt
  /-- `>=`. -/
  | ge
  /-- `<`. -/
  | lt
  /-- `<=`. -/
  | le
deriving DecidableEq, Repr

namespace Operator

/-- All operators. -/
def all : List Operator := [.has, .eq, .ne, .gt, .ge, .lt, .le]

/-- How an operator is written. -/
def token : Operator → String
  | .has => ":"
  | .eq  => "="
  | .ne  => "!="
  | .gt  => ">"
  | .ge  => ">="
  | .lt  => "<"
  | .le  => "<="

/-- The operator that a token stands for. -/
def ofToken? (token : String) : Option Operator := all.find? fun o => o.token == token

/-- Whether an operator holds of two things in this order. -/
def holds : Operator → Ordering → Bool
  | .has, o => o == .eq
  | .eq,  o => o == .eq
  | .ne,  o => o != .eq
  | .gt,  o => o == .gt
  | .ge,  o => o != .lt
  | .lt,  o => o == .lt
  | .le,  o => o != .gt

@[simp] theorem ofToken?_token (o : Operator) : ofToken? o.token = some o := by
  cases o <;> decide

end Operator

end CardSearch
