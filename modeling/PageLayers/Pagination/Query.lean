import PageLayers.Json.Basic
import PageLayers.Number.Reading
import PageLayers.Pagination.Basic

/-!
The pages that query parameters ask for. `page` is the page of all layers, and `page_` followed by
the id of a layer is the page of that layer. Parameters that are no whole numbers above zero are
passed over.
-/

namespace PageLayers.Pagination

def pageNumber? (value : Json) : Option Nat :=
  let number := match value with
    | .int n => some n
    | .text s => Number.readInteger? s
    | _ => none
  match number with
  | some n => if 1 ≤ n then some n.toNat else none
  | none => none

/-- The characters that a key has after `page_`. One line break at the end is not counted. -/
def layerKey? (key : List Char) : Option (List Char) :=
  let start := "page_".toList
  if start.isPrefixOf key then
    let rest := key.drop start.length
    let layer := if rest.getLast? = some '\n' then rest.dropLast else rest
    if layer.isEmpty || layer.contains '\n' then none else some layer
  else none

def Request.withParameter (r : Request) (key : String) (value : Json) : Request :=
  match pageNumber? value with
  | none => r
  | some page =>
    if key = "page" then { r with defaultPage := some page }
    else match layerKey? key.toList with
      | some layer => { r with pageNumbers := Entries.put (.ofList layer) page r.pageNumbers }
      | none => r

def Request.ofQuery (params : List (String × Json)) : Request :=
  params.foldl (fun r (key, value) => r.withParameter key value) {}

end PageLayers.Pagination
