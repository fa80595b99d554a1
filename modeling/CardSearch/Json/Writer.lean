import CardSearch.Decimal.Layout
import CardSearch.Json.Basic

/-!
# Writing documents

A document on one line without blanks, or with two spaces of indentation for every array and
object around a line.
-/

namespace CardSearch.Json

/-- How one character of a text is written. -/
def escapeChar (c : Char) : List Char :=
  if c = '"' then ['\\', '"']
  else if c = '\\' then ['\\', '\\']
  else if c = '\x08' then ['\\', 'b']
  else if c = '\x0c' then ['\\', 'f']
  else if c = '\n' then ['\\', 'n']
  else if c = '\r' then ['\\', 'r']
  else if c = '\t' then ['\\', 't']
  else if c.toNat < 0x20 then
    ['\\', 'u', '0', '0', Nat.digitChar (c.toNat / 16), Nat.digitChar (c.toNat % 16)]
  else [c]

/-- A text between quotes. -/
def writeText (s : String) : String :=
  String.ofList ('"' :: (s.toList.flatMap escapeChar ++ ['"']))

/-- The text of a number. -/
def writeNumeral : Numeral → String
  | .integer n => toString n
  | .double x  => x.write Decimal.Layout.json

mutual
/-- A document on one line. -/
def compact : Json → String
  | .null       => "null"
  | .bool true  => "true"
  | .bool false => "false"
  | .number n   => writeNumeral n
  | .text s     => writeText s
  | .array vs   => "[" ++ ",".intercalate (compactItems vs) ++ "]"
  | .object ms  => "\x7b" ++ ",".intercalate (compactMembers ms) ++ "\x7d"

/-- The items of an array, each on one line. -/
def compactItems : List Json → List String
  | []      => []
  | v :: vs => compact v :: compactItems vs

/-- The members of an object, each on one line. -/
def compactMembers : List (String × Json) → List String
  | []           => []
  | (k, v) :: ms => (writeText k ++ ":" ++ compact v) :: compactMembers ms
end

/-- The start of a line inside `depth` arrays and objects. -/
def lineStart (depth : Nat) : String := String.ofList ('\n' :: List.replicate (2 * depth) ' ')

/-- Items between brackets, each on a line of its own. -/
def block (opening closing : String) (depth : Nat) (items : List String) : String :=
  if items.isEmpty then opening ++ closing
  else
    opening ++ lineStart (depth + 1) ++ ("," ++ lineStart (depth + 1)).intercalate items
      ++ lineStart depth ++ closing

mutual
/-- A document over several lines, itself inside `depth` arrays and objects. -/
def prettyAt (depth : Nat) : Json → String
  | .array vs  => block "[" "]" depth (prettyItems (depth + 1) vs)
  | .object ms => block "\x7b" "\x7d" depth (prettyMembers (depth + 1) ms)
  | v          => compact v

/-- The items of an array. -/
def prettyItems (depth : Nat) : List Json → List String
  | []      => []
  | v :: vs => prettyAt depth v :: prettyItems depth vs

/-- The members of an object. -/
def prettyMembers (depth : Nat) : List (String × Json) → List String
  | []           => []
  | (k, v) :: ms => (writeText k ++ ": " ++ prettyAt depth v) :: prettyMembers depth ms
end

/-- A document over several lines. -/
def pretty (v : Json) : String := prettyAt 0 v

end CardSearch.Json
