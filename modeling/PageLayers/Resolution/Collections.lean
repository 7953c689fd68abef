import PageLayers.Layer.Ids
import PageLayers.Layer.Injection
import PageLayers.Resolution.Binding
import PageLayers.Resolution.References
import PageLayers.Visibility.Evaluation

/-!
Resolution of collection bindings. A bound layer is replaced by a fragment that holds a clone of the
layer for each item that the binding shows. Within a clone the item is in scope: it restricts nested
bindings, and its values are injected after these were resolved. A binding that fails is kept with a
warning, and its children are resolved as those of an unbound layer; only a violation ends the
resolution.
-/

namespace PageLayers

structure Resolver where
  source : DataSource
  variant : Variant := .published
  settings : Settings := {}
  request : Pagination.Request := {}
  evaluator : Visibility.Evaluator := Visibility.Expression.eval
  shuffle : List Item → List Item := id
  sorter : Sorter := Sorter.byRuns

namespace Resolver

def enhance (r : Resolver) (values : Values) (fields : List Field) : Outcome Values :=
  if r.settings.resolveReferences then References.enhance r.source r.variant values fields
  else pure values

def filterItems (evaluator : Visibility.Evaluator) (e : Visibility.Expression) :
    List Item → Except Failure (List Item)
  | [] => .ok []
  | i :: is => do
    let keep ← evaluator e { itemValues := some i.values }
    let rest ← filterItems evaluator e is
    return if keep then i :: rest else rest

def applyFilters (evaluator : Visibility.Evaluator) (filters : Option Visibility.Expression)
    (items : List Item) : Except Failure (List Item) :=
  match filters with
  | none => .ok items
  | some e => if e.isEmpty then .ok items else filterItems evaluator e items

structure Selection where
  window : FetchWindow
  total : Int
  fields : List Field
  items : List Item

def select (r : Resolver) (layerId : String) (s : CollectionSource) (scope : Option Given) :
    Outcome Selection := do
  let window := s.fetchWindow r.settings r.request layerId
  let allowed ← Outcome.ofResult (s.allowedIds scope)
  let (page, fields) ← Outcome.both
    (Outcome.ofReply (r.source.items s.id r.variant (window.query allowed)))
    (Outcome.ofReply (r.source.fields s.id r.variant))
  let items ← Outcome.ofResult (applyFilters r.evaluator s.filters page.items)
  let sorted := r.sorter.sortItems r.shuffle (.ofText s.sortBy) s.sortOrder items
  Outcome.ofResult (window.log page.total)
  return { window, fields, total := page.total, items := sorted }

def itemIdAttribute : String := "data-collection-item-id"

def cloneElement (e : Element) (item : Item) (slug : Option String) (values : Values) : Element :=
  { e with
    id := cloneId e.id item.id
    attributes := Entries.put itemIdAttribute (.text item.id) e.attributes
    bindings := { e.bindings with collection := none }
    itemId := some item.id
    itemSlug := slug
    itemValues := some values }

/-- The clone of a layer for an item. `inner` resolves the children within an item's scope. -/
def clone (r : Resolver) (e : Element) (inner : Option Given → Outcome (List Layer))
    (fields : List Field) (item : Item) : Outcome Layer := do
  let children ← inner (some (.ofValues item.values))
  let values ← r.enhance item.values fields
  let slug := item.slug? fields r.settings.slugFieldKey
  Outcome.ofResult (Layer.inject values ⟨cloneElement e item slug values, children⟩)

def fragmentElement (e : Element) (pagination : Option Pagination.Meta) : Element :=
  { e with
    id := fragmentId e.id
    name := fragmentName
    classes := []
    attributes := []
    bindings := { e.bindings with collection := none }
    pagination }

def expandBinding (r : Resolver) (e : Element) (s : CollectionSource)
    (inner : Option Given → Outcome (List Layer)) (scope : Option Given) : Outcome Layer := do
  let selection ← r.select e.id s scope
  let clones ← Outcome.all (selection.items.map (r.clone e inner selection.fields))
  let page ← Outcome.ofResult (selection.window.recordPage e.id s.id selection.total)
  return ⟨fragmentElement e page, clones⟩

/-- A layer whose children are resolved in the scope around it. -/
def keepLayer (e : Element) (inner : Option Given → Outcome (List Layer)) (scope : Option Given) :
    Outcome Layer :=
  Layer.mk e <$> inner scope

def resolveElement (r : Resolver) (e : Element) (inner : Option Given → Outcome (List Layer))
    (scope : Option Given) : Outcome Layer :=
  if e.isFragment then Outcome.fail (.fragmentInTree e.id)
  else match e.binding? with
    | none => keepLayer e inner scope
    | some s =>
      (r.expandBinding e s inner scope).orElse fun _ => do
        Outcome.warn (.keptLayer e.id)
        keepLayer e inner scope

mutual
def resolveLayer (r : Resolver) : Layer → Option Given → Outcome Layer
  | ⟨e, children⟩, scope => r.resolveElement e (fun scope => resolveForest r children scope) scope

/-- Layers with all bindings resolved, side by side. -/
def resolveForest (r : Resolver) : List Layer → Option Given → Outcome (List Layer)
  | [], _ => pure []
  | l :: ls, scope =>
    (fun (l, ls) => l :: ls) <$> Outcome.both (resolveLayer r l scope) (resolveForest r ls scope)
end

end Resolver
end PageLayers
