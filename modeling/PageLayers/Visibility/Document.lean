import PageLayers.Collection.Document
import PageLayers.Visibility.Condition

/-!
Visibility expressions as documents.
-/

namespace PageLayers.Visibility
open Document

def Condition.check : Check Condition :=
  record .modelType fun ms =>
    Condition.mk <$> perhaps ["id"] text ms
      <*> optional ["source"] .collectionField (named ConditionSource.ofText?) ms
      <*> perhaps ["fieldId", "field_id"] text ms
      <*> perhaps ["fieldType", "field_type"] FieldType.check ms
      <*> perhaps ["referenceCollectionId", "reference_collection_id"] text ms
      <*> required ["operator"] text ms
      <*> perhaps ["value"] text ms
      <*> perhaps ["value2"] text ms
      <*> perhaps ["collectionLayerId", "collection_layer_id"] text ms
      <*> perhaps ["compareOperator", "compare_operator"] (named CountOperator.ofText?) ms
      <*> perhaps ["compareValue", "compare_value"] float ms

def Condition.toJson (c : Condition) : Json := .object [
  ("id", orNull .text c.id),
  ("source", .text c.source.name),
  ("fieldId", orNull .text c.fieldId),
  ("fieldType", orNull FieldType.toJson c.fieldType),
  ("referenceCollectionId", orNull .text c.referenceCollectionId),
  ("operator", .text c.operator),
  ("value", orNull .text c.value),
  ("value2", orNull .text c.value2),
  ("collectionLayerId", orNull .text c.collectionLayerId),
  ("compareOperator", orNull (.text ·.name) c.compareOperator),
  ("compareValue", orNull .float c.compareValue)]

def Group.check : Check Group :=
  record .modelType fun ms =>
    Group.mk <$> perhaps ["id"] text ms
      <*> optional ["conditions"] [] (listOf Condition.check) ms

def Group.toJson (g : Group) : Json := .object [
  ("id", orNull .text g.id),
  ("conditions", ofList Condition.toJson g.conditions)]

def Expression.check : Check Expression :=
  record .modelType fun ms => Expression.mk <$> optional ["groups"] [] (listOf Group.check) ms

def Expression.toJson (e : Expression) : Json := .object [("groups", ofList Group.toJson e.groups)]

def checkItemValues (ms : Members) : Checked (Option Values) :=
  perhaps ["collection_item_data"] (mapOf text) ms

def checkCounts (ms : Members) : Checked (Entries Int) :=
  optional ["page_collection_counts"] [] (mapOf whole) ms

def Context.check : Check Context :=
  record .modelType fun ms =>
    (fun itemValues counts => { itemValues, counts }) <$> checkItemValues ms <*> checkCounts ms

def Context.toJson (c : Context) : Json := .object [
  ("collection_item_data", orNull (ofEntries .text) c.itemValues),
  ("page_collection_counts", ofEntries .int c.counts)]

end PageLayers.Visibility
