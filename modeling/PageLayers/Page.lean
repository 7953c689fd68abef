import PageLayers.Layer.Components
import PageLayers.Layer.Depth
import PageLayers.Pagination.Controls
import PageLayers.Resolution.Collections
import PageLayers.Resolution.Visible

/-!
Resolution of a page. Component instances are expanded, the page's own item is injected, collection
bindings are resolved, hidden layers are dropped, and pagination controls are patched. Numbers of
items and states of pages are taken before anything is hidden; the index of slugs is taken at the
end, from what is left.
-/

namespace PageLayers

structure Page where
  layers : List Layer
  components : List Component := []
  item : Option Item := none
  fields : List Field := []

structure ResolvedPage where
  layers : List Layer := []
  pagination : Entries Pagination.Meta := []
  slugs : Entries String := []
  counts : Entries Int := []
  deriving DecidableEq, Repr

/-- The number of layers within each other that can be gone through once they have been filtered. -/
def Layer.shownLimit : Nat := 326

def Layer.boundedForest (layers : List Layer) : Except Failure (List Layer) :=
  if Layer.forestDepthWith (fun _ => 1) layers ≤ shownLimit then .ok layers else .error .tooDeep

def ResolvedPage.bounded (p : ResolvedPage) : Except Failure ResolvedPage := do
  return { p with layers := ← Layer.boundedForest p.layers }

def Element.stampedSlug? (e : Element) : Option (String × String) :=
  match e.itemId, e.itemSlug with
  | some id, some slug => if id = "" || slug = "" then none else some (id, slug)
  | _, _ => none

/-- The slugs stamped on clones, by item. The last clone of an item counts. -/
def itemSlugs (layers : List Layer) : Entries String :=
  Entries.ofList ((Layer.preorderForest layers).filterMap (·.stampedSlug?))

/-- The slug of a page's own item comes on top of those of clones. -/
def Page.addSlug (p : Page) (settings : Settings) (slugs : Entries String) : Entries String :=
  match p.item with
  | none => slugs
  | some item =>
    match item.slug? p.fields settings.slugFieldKey with
    | some slug => Entries.put item.id slug slugs
    | none => slugs

def Page.itemValues (p : Page) (r : Resolver) : Outcome (Option Values) :=
  match p.item with
  | none => pure none
  | some item => some <$> r.enhance item.values p.fields

def injectPageItem (values : Option Values) (layers : List Layer) : Except Failure (List Layer) :=
  match values with
  | none => .ok layers
  | some values => Layer.injectForest values layers

def Page.finish (p : Page) (r : Resolver) (values : Option Values) (resolved : List Layer) :
    Except Failure ResolvedPage := do
  let counts := itemCounts resolved
  let seen ← Layer.visibleForest r.evaluator counts resolved values
  let pagination := Pagination.collect resolved
  let page ← ResolvedPage.bounded { layers := seen.layers, pagination, counts }
  let layers ← Pagination.apply pagination page.layers
  return { page with layers, slugs := p.addSlug r.settings (itemSlugs layers) }

def Page.resolve (p : Page) (r : Resolver) : Outcome ResolvedPage := do
  let expanded ← Outcome.ofResult (Component.expand p.components p.layers)
  let values ← p.itemValues r
  let tree ← Outcome.ofResult (injectPageItem values expanded)
  let resolved ← r.resolveForest tree (values.map Given.ofValues)
  Outcome.ofResult (p.finish r values resolved)

end PageLayers
