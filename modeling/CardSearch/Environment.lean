import CardSearch.SortKey
import CardSearch.StableSort
import CardSearch.Term

/-!
# Searching

A search selects the records that match a term, leaves out further printings of a card where only
cards are asked for, and sorts what remains. The result can be grouped for display.

Sort keys do not order records that have texts and numbers in one field. Sorting such records can
come to nothing, and then a search has neither a result nor an error.
-/

namespace CardSearch

/-! ### Selecting -/

/-- The records that match a term, in their order. The first record that fails decides the
error. -/
def Term.select {α : Type} [Searchable α] (t : Term) : List α → Except SearchError (List α)
  | []      => .ok []
  | r :: rs =>
    match t.holds (record r) with
    | .error e  => .error e
    | .ok true  => (t.select rs).map (r :: ·)
    | .ok false => t.select rs

/-! ### Preferences -/

/-- How many rows a card with several printings produces. -/
inductive Unique where
  /-- One row for each name. -/
  | cards
  /-- One row for each printing. -/
  | printings
deriving DecidableEq, Repr

namespace Unique

/-- How the choice is written. -/
def token : Unique → String
  | .cards     => "cards"
  | .printings => "printings"

/-- The choice that a token stands for. -/
def ofToken? (token : String) : Option Unique :=
  [cards, printings].find? fun u => u.token == token

@[simp] theorem ofToken?_token (u : Unique) : ofToken? u.token = some u := by
  cases u <;> decide

end Unique

/-- How the results of a search are shown. -/
structure Environment where
  /-- The sort keys, the most significant first. -/
  sorting : List SortKey := []
  /-- The fields to group by, the outermost first. -/
  grouping : List String := []
  unique : Unique := .printings
deriving DecidableEq, Repr, Inhabited

section

variable {α : Type} [Searchable α]

/-! ### Names and keys -/

/-- The key of the name that a record is shown under. -/
def nameKey (r : α) : Option String := (record r).displayName.key

/-- The first record of each name that is not among those seen. Records without a name all
stay. -/
def firstOfName (seen : List String) : List α → List α
  | []      => []
  | r :: rs =>
    match nameKey r with
    | none   => r :: firstOfName seen rs
    | some k => if k ∈ seen then firstOfName seen rs else r :: firstOfName (k :: seen) rs

/-- What a record is grouped by. -/
def groupKey (fields : List String) (r : α) : List (Option String) :=
  fields.map fun f => ((record r).field f).key

end

/-! ### Groups -/

/-- Records that agree in every grouping field. -/
structure Group (α : Type) where
  /-- What they agree in, one key for each field. -/
  key : List (Option String)
  records : List α
deriving Repr

/-- The group with one more record at its end. -/
def Group.add {α : Type} (g : Group α) (r : α) : Group α := { g with records := g.records ++ [r] }

/-- The groups so far, and an index of the places of their keys. -/
structure Collection (α : Type) where
  groups : List (Group α)
  places : List (List (Option String) × Nat)

namespace Collection

variable {α : Type}

/-- Before the first record. -/
def start : Collection α := ⟨[], []⟩

variable [Searchable α]

/-- Adds a record to the group of its key, which is opened if the index does not know it. -/
def add (fields : List String) (c : Collection α) (r : α) : Collection α :=
  match c.places.lookup (groupKey fields r) with
  | some i => { c with groups := c.groups.modify i fun g => g.add r }
  | none   => ⟨c.groups ++ [⟨groupKey fields r, [r]⟩],
      (groupKey fields r, c.groups.length) :: c.places⟩

/-- The groups and the index after all records. -/
def collect (fields : List String) (rs : List α) : Collection α := rs.foldl (add fields) start

end Collection

/-! ### Searching -/

namespace Environment

variable {α : Type} [Searchable α]

/-- Leaves out what the choice of rows does not ask for. -/
def dedupe (env : Environment) (rs : List α) : List α :=
  match env.unique with
  | .printings => rs
  | .cards     => firstOfName [] rs

/-- Sorts records by the sort keys. Records that compare as equal keep their order. -/
def sort (env : Environment) (rs : List α) : Option (List α) :=
  if env.sorting.isEmpty then some rs
  else stableSort (fun a b => SortKey.compareRecords env.sorting (record a) (record b)) rs

/-- Groups records by the grouping fields, in the order of the first members. -/
def group (env : Environment) (rs : List α) : List (Group α) :=
  (Collection.collect env.grouping rs).groups

/-- Selects, leaves out and sorts, in this order. -/
def search (env : Environment) (t : Term) (rs : List α) : Option (Except SearchError (List α)) :=
  match t.select rs with
  | .error e  => some (.error e)
  | .ok found => (env.sort (env.dedupe found)).map .ok

end Environment

end CardSearch
