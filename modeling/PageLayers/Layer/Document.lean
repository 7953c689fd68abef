import PageLayers.Failure
import PageLayers.Layer.Depth
import PageLayers.Pagination.Document
import PageLayers.Text.Blank
import PageLayers.Visibility.Document

/-!
Layers as documents. A layer is written in two ways, neither of which has the item values that are
stamped on it. Its dump keeps attributes and unknown settings as they are. Its writing has null for
every number in them that is not finite. Layers and the values of slots may lie within each other
only to a limited depth, of which `room` is what is left. The same limit holds for them in a dump,
and in writing for all levels of a layer.
-/

namespace PageLayers
open Document

/-- The number of levels within each other that a document may have. -/
def Layer.depthLimit : Nat := 255

def FieldBinding.check : Check FieldBinding :=
  record .modelType fun ms =>
    FieldBinding.mk <$> required ["field_id"] text ms
      <*> optional ["relationships"] [] (listOf text) ms
      <*> perhaps ["field_type"] FieldType.check ms
      <*> perhaps ["format"] text ms

def FieldBinding.toJson (b : FieldBinding) : Json := .object [
  ("field_id", .text b.fieldId),
  ("relationships", ofList .text b.relationships),
  ("field_type", orNull FieldType.toJson b.fieldType),
  ("format", orNull .text b.format)]

def checkContent : Check String :=
  record .modelType fun ms => optional ["content"] "" text ms

def checkAssetId : Check (Option String) :=
  record .modelType fun ms => perhaps ["asset_id"] text ms

def slotTypes : List String := ["static", "field", "dynamic_text", "asset"]

def SlotValue.checkMembers (tag : String) (ms : Members) : Checked SlotValue :=
  if tag = "static" then .static <$> optional ["value"] "" text ms
  else if tag = "field" then .field <$> required ["data"] FieldBinding.check ms
  else if tag = "dynamic_text" then .dynamicText <$> optional ["data"] "" checkContent ms
  else .asset <$> optional ["data"] none checkAssetId ms

/-- A slot value in a document; its type tells its form, and what it holds takes a level. -/
def SlotValue.checkWithin (room : Nat) : Check SlotValue
  | .object ms =>
    match ms.lookup "type" with
    | none => .fault .unionTagNotFound
    | some (.text tag) =>
      if slotTypes.contains tag then
        (if room = 0 then .fault .tooDeep else SlotValue.checkMembers tag ms).under (.key tag)
      else .fault .unionTagInvalid
    | some _ => .fault .unionTagInvalid
  | _ => .fault .modelAttributesType

def SlotValue.check : Check SlotValue := SlotValue.checkWithin Layer.depthLimit

def checkType (tag : String) (ms : Members) : Checked Unit :=
  optional ["type"] () (word fun s => if s = tag then some () else none) ms

def SlotValue.checkAs (tag : String) : Check SlotValue :=
  record .modelType fun ms => (fun _ v => v) <$> checkType tag ms <*> SlotValue.checkMembers tag ms

def SlotValue.toJson : SlotValue → Json
  | .static value => .object [("type", .text "static"), ("value", .text value)]
  | .field binding => .object [("type", .text "field"), ("data", binding.toJson)]
  | .dynamicText content =>
    .object [("type", .text "dynamic_text"), ("data", .object [("content", .text content)])]
  | .asset id =>
    .object [("type", .text "asset"), ("data", .object [("asset_id", orNull .text id)])]

def CollectionSource.check : Check CollectionSource :=
  record .modelType fun ms =>
    (fun (_ : Unit) => CollectionSource.mk) <$> checkType "collection" ms
      <*> required ["id"] text ms
      <*> perhaps ["sort_by"] text ms
      <*> optional ["sort_order"] .ascending (word SortOrder.ofText?) ms
      <*> perhaps ["limit"] (wholeFrom 0) ms
      <*> perhaps ["offset"] (wholeFrom 0) ms
      <*> perhaps ["source_field_id"] text ms
      <*> perhaps ["source_field_type"] FieldType.check ms
      <*> perhaps ["filters"] Visibility.Expression.check ms
      <*> perhaps ["pagination"] Pagination.Config.check ms

def CollectionSource.toJson (s : CollectionSource) : Json := .object [
  ("type", .text "collection"),
  ("id", .text s.id),
  ("sort_by", orNull .text s.sortBy),
  ("sort_order", .text s.sortOrder.name),
  ("limit", orNull ofNat s.limit),
  ("offset", orNull ofNat s.offset),
  ("source_field_id", orNull .text s.sourceFieldId),
  ("source_field_type", orNull FieldType.toJson s.sourceFieldType),
  ("filters", orNull Visibility.Expression.toJson s.filters),
  ("pagination", orNull Pagination.Config.toJson s.pagination)]

def Bindings.checkWithin (room : Nat) : Check Bindings :=
  record .modelType fun ms =>
    Bindings.mk <$> perhaps ["text"] (SlotValue.checkWithin room) ms
      <*> perhaps ["image"] (SlotValue.checkWithin room) ms
      <*> perhaps ["video"] (SlotValue.checkWithin room) ms
      <*> perhaps ["icon"] (SlotValue.checkWithin room) ms
      <*> perhaps ["link"] (SlotValue.checkWithin room) ms
      <*> perhaps ["collection"] CollectionSource.check ms
      <*> perhaps ["conditionalVisibility", "conditional_visibility"] Visibility.Expression.check ms

def Bindings.check : Check Bindings := Bindings.checkWithin Layer.depthLimit

def Bindings.toJson (v : Bindings) : Json := .object [
  ("text", orNull SlotValue.toJson v.text),
  ("image", orNull SlotValue.toJson v.image),
  ("video", orNull SlotValue.toJson v.video),
  ("icon", orNull SlotValue.toJson v.icon),
  ("link", orNull SlotValue.toJson v.link),
  ("collection", orNull CollectionSource.toJson v.collection),
  ("conditionalVisibility", orNull Visibility.Expression.toJson v.visibility)]

def customAttributeKeys : List String := ["customAttributes", "custom_attributes"]

/-- Whether a member of the settings is none of the known fields. Where custom attributes are
    written under both keys, only the first one is the field. -/
def isOtherSetting (ms : Members) (key : String) : Bool :=
  key ≠ "tag" && key ≠ "hidden" && key ≠ "customAttributes" &&
    (key ≠ "custom_attributes" || (ms.lookup "customAttributes").isSome)

def ElementSettings.check : Check ElementSettings :=
  record .modelType fun ms =>
    ElementSettings.mk <$> perhaps ["tag"] text ms
      <*> perhaps ["hidden"] flag ms
      <*> perhaps customAttributeKeys (mapOf text) ms
      <*> .ok (ms.filter fun (key, _) => isOtherSetting ms key)

def ElementSettings.toJsonWith (free : Members → Members) (s : ElementSettings) : Json := .object ([
  ("tag", orNull .text s.tag),
  ("hidden", orNull .bool s.hidden),
  ("customAttributes", orNull (ofEntries .text) s.customAttributes)] ++ free s.others)

def ElementSettings.toJson : ElementSettings → Json := toJsonWith Json.finiteMembers

/-- The classes of a layer in a document: a list, a text with blanks between the classes, or null.
    -/
def checkClasses : Check (List String)
  | .null => .ok []
  | .text s => .ok (Text.words s)
  | j => listOf text j

def Element.checkMembers (room : Nat) (ms : Members) : Checked Element :=
  Element.mk <$> required ["id"] text ms
    <*> optional ["name"] "div" text ms
    <*> perhaps ["customName", "custom_name"] text ms
    <*> optional ["classes"] [] checkClasses ms
    <*> optional ["variables"] {} (Bindings.checkWithin room) ms
    <*> optional ["attributes"] [] (mapOf anything) ms
    <*> perhaps ["settings"] ElementSettings.check ms
    <*> perhaps ["componentId", "component_id"] text ms
    <*> perhaps ["_collectionItemId", "collection_item_id"] text ms
    <*> perhaps ["_collectionItemSlug", "collection_item_slug"] text ms
    <*> perhaps ["collection_item_values"] (mapOf text) ms
    <*> perhaps ["_paginationMeta", "pagination_meta"] Pagination.Meta.check ms

def Element.toMembers (free : Members → Members) (e : Element) : Members := [
  ("id", .text e.id),
  ("name", .text e.name),
  ("customName", orNull .text e.customName),
  ("classes", ofList .text e.classes),
  ("variables", e.bindings.toJson),
  ("attributes", .object (free e.attributes)),
  ("settings", orNull (ElementSettings.toJsonWith free) e.settings),
  ("componentId", orNull .text e.componentId),
  ("_collectionItemId", orNull .text e.itemId),
  ("_collectionItemSlug", orNull .text e.itemSlug),
  ("_paginationMeta", orNull Pagination.Meta.toJson e.pagination)]

namespace Layer

mutual
def checkWithin : Nat → Json → Checked Layer
  | 0, _ => .fault .tooDeep
  | room + 1, .object ms => Layer.mk <$> Element.checkMembers room ms <*> checkChildren room ms
  | _, _ => .fault .modelType

def checkChildren : Nat → List (String × Json) → Checked (List Layer)
  | _, [] => .ok []
  | room, (key, value) :: rest =>
    if key = "children" then (checkForestWithin room value).under (.key "children")
      else checkChildren room rest

def checkForestWithin : Nat → Json → Checked (List Layer)
  | room, .array js => checkElements room 0 js
  | _, _ => .fault .listType

def checkElements : Nat → Nat → List Json → Checked (List Layer)
  | _, _, [] => .ok []
  | room, n, j :: js =>
    List.cons <$> (checkWithin room j).under (.index n) <*> checkElements room (n + 1) js
end

def check : Check Layer := checkWithin depthLimit

mutual
def toJsonWith (free : Members → Members) (more : Element → Members) : Layer → Json
  | ⟨e, children⟩ =>
    .object
      (e.toMembers free ++ ("children", .array (forestToJsonWith free more children)) :: more e)

def forestToJsonWith (free : Members → Members) (more : Element → Members) : List Layer → List Json
  | [] => []
  | l :: ls => toJsonWith free more l :: forestToJsonWith free more ls
end

def writeWith (more : Element → Members) (l : Layer) : Except Failure Json :=
  if l.depth ≤ depthLimit then .ok (l.toJsonWith Json.finiteMembers more)
    else .error .tooDeepToWrite

def write : Layer → Except Failure Json := writeWith fun _ => []

def dump (l : Layer) : Except Failure Json :=
  if l.levels ≤ depthLimit then .ok (l.toJsonWith id fun _ => []) else .error .tooDeepToWrite

end Layer

def ElementSettings.write (s : ElementSettings) : Except Failure Json :=
  if s.depth ≤ Layer.depthLimit then .ok s.toJson else .error .tooDeepToWrite

/-- The number of levels that the layers of a component may have in a document. The component itself
    takes one. -/
def Component.depthLimit : Nat := Layer.depthLimit - 1

def Component.check : Check Component :=
  record .modelType fun ms =>
    Component.mk <$> required ["id"] text ms
      <*> optional ["name"] "" text ms
      <*> optional ["layers"] [] (Layer.checkForestWithin Component.depthLimit) ms

def Component.toJson (c : Component) : Json := .object [
  ("id", .text c.id),
  ("name", .text c.name),
  ("layers", .array (Layer.forestToJsonWith Json.finiteMembers (fun _ => []) c.layers))]

def Component.write (c : Component) : Except Failure Json :=
  if Layer.forestDepth c.layers ≤ depthLimit then .ok c.toJson else .error .tooDeepToWrite

end PageLayers
