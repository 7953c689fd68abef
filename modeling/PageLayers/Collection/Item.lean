import PageLayers.Collection.FieldType
import PageLayers.Entries

/-!
Collections: fields, items, and the window and restriction under which items are asked for.
-/

namespace PageLayers

/-- The values of an item by field id; followed references add dotted keys. -/
abbrev Values := Entries String

structure Field where
  id : String
  name : String := ""
  key : Option String := none
  type : FieldType := .text
  collectionId : Option String := none
  referenceCollectionId : Option String := none
  deriving DecidableEq, Repr

structure Item where
  id : String
  collectionId : String
  manualOrder : Int := 0
  values : Values := []
  deriving DecidableEq, Repr

/-- What a query for items asks for: at most `limit` items after the first `offset` ones, among
    those with the given ids. -/
structure ItemQuery where
  limit : Option Nat := none
  offset : Option Nat := none
  itemIds : Option (List String) := none
  deriving DecidableEq, Repr

/-- The items that answer a query, and the number of items without its window. -/
structure ItemPage where
  items : List Item := []
  total : Int := 0
  deriving DecidableEq, Repr

def fieldOfKey? (key : String) (fields : List Field) : Option Field :=
  fields.find? (·.key = some key)

/-- The value of the item's field with the given key, unless it is empty. -/
def Item.slug? (item : Item) (fields : List Field) (key : String) : Option String :=
  match fieldOfKey? key fields with
  | some f => (item.values.lookup f.id).filter (· ≠ "")
  | none => none

end PageLayers
