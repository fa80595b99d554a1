import CardSearch.Card
import CardSearch.Environment
import CardSearch.Json.Writer

/-!
# Reports

The results of a search as text. A row shows three fields of a card; rows are put under headings
where the environment groups. The other form is an array of the whole cards.
-/

namespace CardSearch.Report

/-- What stands for an absent value. -/
def absent : String := "-"

/-- A value in a row. -/
def cell : Value → String
  | .text s   => s
  | .number x => x.write Decimal.Layout.plain
  | .absent   => absent

/-- The fields of a row. -/
def columns : List String := ["name", "set", "rarity"]

/-- A card on one line. -/
def row (c : Card) : String := "\t".intercalate (columns.map fun f => cell (c.field f)) ++ "\n"

/-- The line over a group of so many cards. -/
def heading (fields : List String) (key : List (Option String)) (count : Nat) : String :=
  " ".intercalate ((fields.zip key).map fun (f, k) => f ++ "=" ++ k.getD absent)
    ++ " (" ++ toString count ++ ")\n"

/-- A group of cards under its heading. -/
def block (fields : List String) (g : Group Card) : String :=
  heading fields g.key g.records.length ++ String.join (g.records.map fun c => "  " ++ row c)

/-- Cards as rows, in groups if there are fields to group by. -/
def text (env : Environment) (cards : List Card) : String :=
  if env.grouping.isEmpty then String.join (cards.map row)
  else String.join ((env.group cards).map (block env.grouping))

/-- Cards as a JSON array. -/
def json (cards : List Card) : String := (Json.array (cards.map Card.toJson)).pretty ++ "\n"

end CardSearch.Report
