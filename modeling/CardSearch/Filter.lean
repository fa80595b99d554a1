import CardSearch.Decimal.Reading
import CardSearch.Operator
import CardSearch.Record
import CardSearch.Text.Basic
import CardSearch.Text.Quoted

/-!
# Filters

A filter is what the name before an operator resolves to: the aliases that it answers to, and a
way of reading one value out of a record. The value is then compared with the word of the query.
-/

namespace CardSearch

/-! ### Comparing a value with a word -/

/-- Compares a text with a word, without regard to case. The word is the left side of the order. -/
def compareText (value : String) (o : Operator) (word : String) : Bool :=
  match o with
  | .has => Text.occurs (Text.lower word) (Text.lower value)
  | o    => o.holds (compare (Text.lower word) (Text.lower value))

/-- Compares a number with a word, which has to stand for a number as well. The word is the left
side of the order. What is not a number differs from everything. -/
def compareNumber (value : Number) (o : Operator) (word : String) : Bool :=
  match Number.read? (Text.trim word) with
  | none   => false
  | some x =>
    match x.compare? value with
    | some order => o.holds order
    | none       => o == .ne

/-- Compares a value with a word. An absent value never matches. -/
def compareWord : Value → Operator → String → Bool
  | .text s,   o, word => compareText s o word
  | .number x, o, word => compareNumber x o word
  | .absent,   _, _    => false

@[simp] theorem compareWord_absent (o : Operator) (word : String) :
    compareWord .absent o word = false := rfl

/-- Against a word that does not stand for a number, a number never matches. -/
theorem compareWord_number_of_none {word : String} (h : Number.read? (Text.trim word) = none)
    (value : Number) (o : Operator) : compareWord (.number value) o word = false := by
  rw [compareWord]
  unfold compareNumber
  rw [h]

theorem compareWord_number_of_some {word : String} {x : Number}
    (h : Number.read? (Text.trim word) = some x) (value : Number) (o : Operator) :
    compareWord (.number value) o word = (x.compare? value).elim (o == .ne) o.holds := by
  rw [compareWord]
  unfold compareNumber
  simp only [h]
  cases x.compare? value <;> rfl

/-! ### Filters -/

/-- A way of deriving a value from a whole record, known by its name. -/
structure Extractor where
  name : String
  value : Record → Value

instance : BEq Extractor := ⟨fun a b => a.name == b.name⟩

/-- Where a filter reads its value from. -/
inductive Source where
  | field (name : String)
  | computed (extractor : Extractor)
deriving BEq

/-- A filter and the aliases that it answers to. -/
structure Filter where
  aliases : List String
  source : Source
deriving BEq

namespace Filter

/-- The first alias. -/
def name (f : Filter) : String := f.aliases.head?.getD ""

/-- The value that a filter reads out of a record. -/
def value (f : Filter) (r : Record) : Value :=
  match f.source with
  | .field name  => r.field name
  | .computed e  => e.value r

/-- Whether a record passes a filter. -/
def holds (f : Filter) (r : Record) (o : Operator) (word : String) : Bool :=
  compareWord (f.value r) o word

end Filter

/-- A source as text. -/
def Source.write : Source → String
  | .field name => "Field(" ++ Text.quoted name ++ ")"
  | .computed _ => "Computed(..)"

/-- Whether a filter derives its value. -/
def Source.isComputed : Source → Bool
  | .field _    => false
  | .computed _ => true

/-! ### Derived values -/

namespace Extractor

/-- The title of a record, or else the name that it is shown under. -/
def titleOrName : Extractor :=
  ⟨"title_or_name", fun r =>
    match r.field "title" with
    | .absent => r.displayName
    | title   => title⟩

/-- How often the toughness of a record goes into its power. -/
def ratio : Extractor :=
  ⟨"ratio", fun r =>
    match r.field "power", r.field "toughness" with
    | .number p, .number t => .number (p.div t)
    | _,         _         => .absent⟩

/-- The extractor of a name. -/
def named? (name : String) : Option Extractor :=
  [titleOrName, ratio].find? fun e => e.name == name

end Extractor

end CardSearch
