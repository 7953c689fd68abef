import PageLayers.Collection.Item
import PageLayers.Document.Record

/-!
Collection fields, items and queries as documents.
-/

namespace PageLayers
open Document

def FieldType.check : Check FieldType := named FieldType.ofText?

def FieldType.toJson (t : FieldType) : Json := .text t.name

def Field.check : Check Field :=
  record .modelAttributesType fun ms =>
    Field.mk <$> required ["id"] text ms
      <*> optional ["name"] "" text ms
      <*> perhaps ["key"] text ms
      <*> optional ["type"] .text FieldType.check ms
      <*> perhaps ["collection_id"] text ms
      <*> perhaps ["reference_collection_id"] text ms

def Field.toJson (f : Field) : Json := .object [
  ("id", .text f.id),
  ("name", .text f.name),
  ("key", orNull .text f.key),
  ("type", f.type.toJson),
  ("collection_id", orNull .text f.collectionId),
  ("reference_collection_id", orNull .text f.referenceCollectionId)]

def Item.check : Check Item :=
  record .modelAttributesType fun ms =>
    Item.mk <$> required ["id"] text ms
      <*> required ["collection_id"] text ms
      <*> optional ["manual_order"] 0 whole ms
      <*> optional ["values"] [] (mapOf text) ms

def Item.toJson (i : Item) : Json := .object [
  ("id", .text i.id),
  ("collection_id", .text i.collectionId),
  ("manual_order", .int i.manualOrder),
  ("values", ofEntries .text i.values)]

def ItemQuery.check : Check ItemQuery :=
  record .modelType fun ms =>
    ItemQuery.mk <$> perhaps ["limit"] (wholeFrom 0) ms
      <*> perhaps ["offset"] (wholeFrom 0) ms
      <*> perhaps ["item_ids"] (listOf text) ms

def ItemQuery.toJson (q : ItemQuery) : Json := .object [
  ("limit", orNull ofNat q.limit),
  ("offset", orNull ofNat q.offset),
  ("item_ids", orNull (ofList .text) q.itemIds)]

def ItemPage.check : Check ItemPage :=
  record .modelType fun ms =>
    ItemPage.mk <$> optional ["items"] [] (listOf Item.check) ms
      <*> optional ["total"] 0 whole ms

def ItemPage.toJson (p : ItemPage) : Json := .object [
  ("items", ofList Item.toJson p.items),
  ("total", .int p.total)]

end PageLayers
