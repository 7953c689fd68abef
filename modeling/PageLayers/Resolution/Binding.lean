import PageLayers.Collection.References
import PageLayers.Layer.Basic
import PageLayers.Settings

/-!
Which items a binding shows: the window of its query, which is the page asked for or a fixed limit
and offset, and the ids to which the item around it restricts it.
-/

namespace PageLayers
open Document

structure FetchWindow where
  limit : Option Nat
  offset : Option Nat
  currentPage : Nat := 1
  itemsPerPage : Option Nat := none
  deriving DecidableEq, Repr

def CollectionSource.fetchWindow (s : CollectionSource) (settings : Settings)
    (request : Pagination.Request) (layerId : String) : FetchWindow :=
  match s.paging? with
  | some config =>
    let perPage := config.itemsPerPage.getD settings.defaultItemsPerPage
    let page := request.pageFor layerId
    { limit := some perPage, offset := some ((page - 1) * perPage), currentPage := page,
      itemsPerPage := some perPage }
  | none => { limit := s.limit, offset := s.offset }

def CollectionSource.sourceField? (s : CollectionSource) : Option String :=
  s.sourceFieldId.filter (· ≠ "")

def CollectionSource.sourceType (s : CollectionSource) : FieldType :=
  s.sourceFieldType.getD .multiReference

/-- The ids that a binding may show, as they are given: those in the value of its source field in
    the scope around it, so that a missing value leaves none. Without a source field, or without a
    scope, there is no restriction. -/
def CollectionSource.allowedGiven (s : CollectionSource) (scope : Option Given) :
    Except Failure (Option (List Json)) :=
  match s.sourceField?, scope with
  | some field, some given =>
    some <$> References.decodeGiven (some s.sourceType) ((given.lookup field).getD .null)
  | _, _ => .ok none

def idTexts (ids : List Json) : Except Failure (List String) :=
  match listOf text (.array ids) with
  | .ok texts => .ok texts
  | .faulty fs => .error (.faulty fs)

def CollectionSource.allowedIds (s : CollectionSource) (scope : Option Given) :
    Except Failure (Option (List String)) := do
  match ← s.allowedGiven scope with
  | none => return none
  | some ids => return some (← idTexts ids)

def FetchWindow.query (w : FetchWindow) (itemIds : Option (List String)) : ItemQuery where
  limit := w.limit.filter (· ≠ 0)
  offset := w.offset.filter (· ≠ 0)
  itemIds := itemIds

/-- Whether all numbers of a fetch can be written. -/
def FetchWindow.isLoggable (w : FetchWindow) (total : Int) : Bool :=
  Number.isWritable total && Number.isWritable w.currentPage &&
    w.limit.all (fun n : Nat => Number.isWritable n) && w.offset.all fun n :
      Nat => Number.isWritable n

/-- What a binding fetches is logged before anything is made of it. -/
def FetchWindow.log (w : FetchWindow) (total : Int) : Except Failure Unit :=
  if w.isLoggable total then .ok () else .error .oversizedInteger

/-- Whether there is a double for the quotient that the pages are counted by. -/
def FetchWindow.isCountable (w : FetchWindow) (total : Int) : Bool :=
  w.itemsPerPage.all fun perPage => Binary64.isFiniteRatio total.natAbs perPage

/-- What is recorded about the page that a binding shows; nothing unless its items are divided into
    pages. -/
def FetchWindow.pageMeta (w : FetchWindow) (layerId collectionId : String) (total : Int) :
    Option Pagination.Meta :=
  w.itemsPerPage.map fun perPage =>
    { layerId, collectionId
      currentPage := w.currentPage
      totalPages := Pagination.signedPageCount total perPage
      totalItems := total
      itemsPerPage := perPage }

def FetchWindow.recordPage (w : FetchWindow) (layerId collectionId : String) (total : Int) :
    Except Failure (Option Pagination.Meta) :=
  if w.isCountable total then .ok (w.pageMeta layerId collectionId total)
    else .error .oversizedNumber

end PageLayers
