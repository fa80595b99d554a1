import CardSearch.Json.Basic
import CardSearch.Record

/-!
# Cards

A card is an open JSON object. Its texts and numbers can be searched; every other member is kept
but counts as absent.
-/

namespace CardSearch

/-- The value that a member of a JSON object stands for. -/
def Json.fieldValue : Json → Value
  | .text s   => .text s
  | .number n => .number n.value
  | _         => .absent

/-- A card of the database. -/
structure Card where
  fields : Json.Members
deriving Repr, Inhabited

namespace Card

/-- The value of a field. -/
def field (c : Card) (name : String) : Value :=
  ((c.fields.get? name).map Json.fieldValue).getD .absent

instance : Searchable Card := ⟨fun c => .ofFields c.field⟩

@[simp] theorem record_field (c : Card) (f : String) : (record c).field f = c.field f := rfl

@[simp] theorem record_displayName (c : Card) : (record c).displayName = c.field nameField := rfl

/-- The card that a document holds. -/
def ofJson? : Json → Option Card
  | .object ms => some ⟨ms⟩
  | _          => none

/-- The document that holds a card. -/
def toJson (c : Card) : Json := .object c.fields

end Card

/-- A card that is shown under its title. -/
structure TitledCard where
  card : Card

instance : Searchable TitledCard := ⟨fun c => ⟨c.card.field, c.card.field "title"⟩⟩

end CardSearch
