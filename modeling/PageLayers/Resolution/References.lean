import PageLayers.Collection.References
import PageLayers.Resolution.Outcome

/-!
Following references. The values of an item are enhanced with those of the items that its reference
fields name, under dotted paths, and so on through the reference fields of these. An item is
followed at most once through a field; a value that a path already has is kept, so that the first of
several referenced items counts. Each item that is followed takes a level of the stack, which is not
endless.
-/

namespace PageLayers.References

/-- What has been gathered so far: the keys of the items that were followed, and the values by path.
    -/
structure Walk where
  visited : List String
  values : Values
  deriving DecidableEq, Repr

def visitKey (fieldId itemId : String) : String := fieldId ++ ":" ++ itemId

def extendPath (path fieldId : String) : String := if path = "" then fieldId else path ++
    "." ++ fieldId

def addValues (path : String) (item : Item) (fields : List Field) (values : Values) : Values :=
  fields.foldl
    (fun m f =>
      match item.values.lookup f.id with
      | some value => Entries.putNew (path ++ "." ++ f.id) value m
      | none => m)
    values

def fetchReferenced (source : DataSource) (v : Variant) (collectionId itemId : String) :
    Outcome (Option (Item × List Field)) := do
  match ← Outcome.ofReply (source.item itemId v) with
  | none => return none
  | some item => return some (item, ← Outcome.ofReply (source.fields collectionId v))

/-- The same, where a failure to fetch is a warning and counts as a missing item. -/
def fetchOrSkip (source : DataSource) (v : Variant) (fieldId collectionId itemId : String) :
    Outcome (Option (Item × List Field)) :=
  (fetchReferenced source v collectionId itemId).orElse fun cause => do
    Outcome.warn (.skippedReference fieldId cause)
    return none

abbrev Follow := Values → List Field → String → Walk → Outcome Walk

def visitItem (source : DataSource) (v : Variant) (follow : Follow)
    (fieldId collectionId path : String) (w : Walk) (itemId : String) : Outcome Walk :=
  let key := visitKey fieldId itemId
  if w.visited.contains key then pure w
  else do
    let w := { w with visited := key :: w.visited }
    match ← fetchOrSkip source v fieldId collectionId itemId with
    | none => return w
    | some (item, fields) =>
      follow item.values fields path { w with values := addValues path item fields w.values }

def target? (f : Field) : Option String :=
  if f.type.isReference then f.referenceCollectionId.filter (· ≠ "") else none

def visitField (source : DataSource) (v : Variant) (follow : Follow) (itemValues : Values)
    (path : String) (w : Walk) (f : Field) : Outcome Walk :=
  match target? f with
  | none => pure w
  | some collectionId => do
    let ids ← Outcome.ofResult (decode (some f.type) (itemValues.lookup f.id))
    ids.foldlM (visitItem source v follow f.id collectionId (extendPath path f.id)) w

/-- The number of items that can be followed in a row. -/
def depthLimit : Nat := 982

/-- Follows the reference fields of an item, with room for so many items in a row, the item itself
    among them. -/
def followWithin (source : DataSource) (v : Variant) : Nat → Follow
  | 0 => fun _ _ _ _ => .fail .tooDeep
  | room + 1 => fun itemValues fields path w =>
    fields.foldlM (visitField source v (followWithin source v room) itemValues path) w

/-- Follows all references of an item. `path` is the one by which the item itself is reached, and
    `visited` holds the keys of what has been followed before. -/
def walk (source : DataSource) (v : Variant) (itemValues : Values) (fields : List Field)
    (path : String) (visited : List String) : Outcome Walk :=
  followWithin source v (depthLimit + 1) itemValues fields path ⟨visited, itemValues⟩

def enhance (source : DataSource) (v : Variant) (itemValues : Values) (fields : List Field) :
    Outcome Values :=
  Walk.values <$> walk source v itemValues fields "" []

end PageLayers.References
