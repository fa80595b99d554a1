import CardSearch.Decimal.Layout
import CardSearch.Text.Lower

/-!
# Values

What a search reads out of a record: a text, a number, or nothing. Texts are compared and grouped
without regard to case.
-/

namespace CardSearch

/-- The value of a field. A field that is absent differs from an empty text. -/
inductive Value where
  | text (s : String)
  | number (x : Number)
  | absent
deriving DecidableEq, Repr, Inhabited

namespace Value

/-- The text, if this is one. -/
def text? : Value → Option String
  | .text s => some s
  | _       => none

/-- What records are grouped and told apart by: the text in lower case, or the digits of the
number. An absent value has no key. -/
def key : Value → Option String
  | .text s   => some (Text.lower s)
  | .number x => some (x.write Decimal.Layout.plain)
  | .absent   => none

/-- The order of two values of one kind. Absent values come after present ones. -/
def compare? : Value → Value → Option Ordering
  | .text s,   .text t   => some (compare (Text.lower s) (Text.lower t))
  | .number x, .number y => x.compare? y
  | .absent,   .absent   => some .eq
  | .absent,   _         => some .gt
  | _,         .absent   => some .lt
  | _,         _         => none

/-- Whether two values are the same. Numbers count by their value, so both zeros are the same and
what is not a number differs from itself. -/
def same : Value → Value → Bool
  | .text s,   .text t   => s == t
  | .number x, .number y => x.sameValue y
  | .absent,   .absent   => true
  | _,         _         => false

@[simp] theorem key_text (s : String) : (text s).key = some (Text.lower s) := rfl

@[simp] theorem key_number (x : Number) :
    (number x).key = some (x.write Decimal.Layout.plain) := rfl

@[simp] theorem key_absent : absent.key = none := rfl

@[simp] theorem key_eq_none_iff {v : Value} : v.key = none ↔ v = .absent := by
  cases v <;> simp

end Value

end CardSearch
