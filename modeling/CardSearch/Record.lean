import CardSearch.Value

/-!
# Records

A search never owns its data. It sees a record as a way of reading fields, together with the name
that the record is shown under; any type that gives such a view can be searched.
-/

namespace CardSearch

/-- What a search can see of one record. -/
structure Record where
  field : String → Value
  /-- What bare words are looked for in. -/
  displayName : Value

/-- Types whose values can be searched. -/
class Searchable (α : Type) where
  record : α → Record

export Searchable (record)

instance : Searchable Record := ⟨id⟩

/-- The field that names a record unless it says otherwise. -/
def nameField : String := "name"

/-- The record with these fields, named by its name field. -/
def Record.ofFields (field : String → Value) : Record := ⟨field, field nameField⟩

end CardSearch
