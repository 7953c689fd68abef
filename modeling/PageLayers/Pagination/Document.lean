import PageLayers.Document.Record
import PageLayers.Pagination.Basic

/-!
Pagination settings, states and requests as documents.
-/

namespace PageLayers.Pagination
open Document

def Config.check : Check Config :=
  record .modelType fun ms =>
    Config.mk <$> optional ["enabled"] false flag ms
      <*> optional ["mode"] .pages (word Mode.ofText?) ms
      <*> perhaps ["items_per_page"] (wholeFrom 1) ms

def Config.toJson (c : Config) : Json := .object [
  ("enabled", .bool c.enabled),
  ("mode", .text c.mode.name),
  ("items_per_page", orNull ofNat c.itemsPerPage)]

def Meta.check : Check Meta :=
  record .modelType fun ms =>
    Meta.mk <$> required ["layerId", "layer_id"] text ms
      <*> required ["collectionId", "collection_id"] text ms
      <*> required ["currentPage", "current_page"] whole ms
      <*> required ["totalPages", "total_pages"] whole ms
      <*> required ["totalItems", "total_items"] whole ms
      <*> required ["itemsPerPage", "items_per_page"] whole ms

def Meta.toJson (m : Meta) : Json := .object [
  ("layerId", .text m.layerId),
  ("collectionId", .text m.collectionId),
  ("currentPage", .int m.currentPage),
  ("totalPages", .int m.totalPages),
  ("totalItems", .int m.totalItems),
  ("itemsPerPage", .int m.itemsPerPage)]

def Request.check : Check Request :=
  record .modelType fun ms =>
    Request.mk <$> optional ["page_numbers"] [] (mapOf positive) ms
      <*> perhaps ["default_page"] positive ms

def Request.toJson (r : Request) : Json := .object [
  ("page_numbers", ofEntries ofNat r.pageNumbers),
  ("default_page", orNull ofNat r.defaultPage)]

end PageLayers.Pagination
