import CardSearch.Json.Token

/-!
# Reading documents

The tokens of a document are taken one after the other. What is kept between two of them is the
list of the arrays and objects that are still open, and what may come next.
-/

namespace CardSearch.Json

/-- An array or object that is still open. -/
inductive Partial where
  /-- The items so far, the last one first. -/
  | array (items : List Json)
  /-- The members so far, and the key that was read last. -/
  | object (members : Members) (key : String)

/-- What may come next. -/
inductive Expect where
  /-- A value, or also the end of the array that was just opened. -/
  | value (orEnd : Bool)
  /-- A key, or also the end of the object that was just opened. -/
  | key (orEnd : Bool)
  /-- The colon between a key and its value. -/
  | colon
  /-- A comma, or the end of the innermost array or object. -/
  | next

/-- A document that has been read in part, or as a whole. -/
inductive Reading where
  | inside (stack : List Partial) (expect : Expect)
  | done (v : Json)

namespace Reading

/-- Puts a finished value where it belongs. -/
def supply (v : Json) : List Partial → Reading
  | []                        => .done v
  | .array items :: rest      => .inside (.array (v :: items) :: rest) .next
  | .object members k :: rest => .inside (.object (members.insert k v) k :: rest) .next

/-- Takes one token. At most `depth` arrays and objects may be open at a time. -/
def step (depth : Nat) : Reading → Token → Option Reading
  | .done _, _ => none
  | .inside stack expect, token =>
    match expect, token, stack with
    | .value _, .scalar v, _ => some (supply v stack)
    | .value _, .text s, _   => some (supply (.text s) stack)
    | .value _, .openArray, _ =>
      if stack.length < depth then some (.inside (.array [] :: stack) (.value true)) else none
    | .value _, .openObject, _ =>
      if stack.length < depth then some (.inside (.object [] "" :: stack) (.key true)) else none
    | .value true, .closeArray, .array _ :: rest             => some (supply (.array []) rest)
    | .key _, .text k, .object members _ :: rest             =>
      some (.inside (.object members k :: rest) .colon)
    | .key true, .closeObject, .object members _ :: rest     => some (supply (.object members) rest)
    | .colon, .colon, _                                      => some (.inside stack (.value false))
    | .next, .comma, .array _ :: _                           => some (.inside stack (.value false))
    | .next, .comma, .object _ _ :: _                        => some (.inside stack (.key false))
    | .next, .closeArray, .array items :: rest               =>
      some (supply (.array items.reverse) rest)
    | .next, .closeObject, .object members _ :: rest         => some (supply (.object members) rest)
    | _, _, _                                                => none

end Reading

/-- The document that a text stands for, with at most `depth` arrays and objects inside one
another. -/
def read? (depth : Nat) (s : String) : Option Json := do
  let ts ← tokens? s.toList
  match ← ts.foldlM (Reading.step depth) (.inside [] (.value false)) with
  | .done v     => some v
  | .inside _ _ => none

end CardSearch.Json
