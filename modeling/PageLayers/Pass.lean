import PageLayers.Layer.Depth
import PageLayers.Layer.Given
import PageLayers.Page

/-!
The passes over a tree, one at a time. A page is resolved by a fixed order of them; here they are
run in any order, each on what the one before left.
-/

namespace PageLayers
open Document

inductive Pass
  /-- Expands instances of components. -/
  | components (known : List Component)
  /-- Injects an item into every root. -/
  | inject (given : Given)
  /-- Resolves collection bindings, in the scope of an item or of none. -/
  | collections (resolver : Resolver) (scope : Option Given)
  /-- Drops hidden layers; without numbers of items these are taken from the tree. -/
  | filter (evaluator : Visibility.Evaluator) (values : Checked (Option Values))
      (counts : Checked (Option (Entries Int)))
  /-- Patches pagination controls; without states of pages these are taken from the tree. -/
  | paginate (states : Option (Entries Pagination.Meta))
  /-- Adds new pagination controls after the roots. -/
  | wrapper (layerId : String) (state : Pagination.Meta)

structure Passed where
  layers : List Layer
  reports : List String := []
  deriving DecidableEq, Repr

/-- Drops hidden layers. Faulty values or numbers are a failure if an expression has to be evaluated
    on them. -/
def filterVisible (evaluator : Visibility.Evaluator) (values : Checked (Option Values))
    (counts : Checked (Option (Entries Int))) (layers : List Layer) : Except Failure Passed := do
  let evaluator := evaluator.given values ((·.getD (itemCounts layers)) <$> counts)
  let seen ← Layer.visibleForest evaluator [] layers none
  return ⟨seen.layers, seen.hidden.map hiddenReport⟩

def expandComponents (known : List Component) (layers : List Layer) : Except Failure Passed := do
  let expanded ← Component.expand known layers
  return ⟨expanded, Component.missingReports known expanded⟩

def Pass.run (layers : List Layer) : Pass → Outcome Passed
  | components known => .ofResult (expandComponents known layers)
  | inject given => .ofResult do return { layers := ← Layer.injectGivenForest given layers }
  | collections resolver scope => do return { layers := ← resolver.resolveForest layers scope }
  | filter evaluator values counts => .ofResult do
    let passed ← filterVisible evaluator values counts layers
    return { passed with layers := ← Layer.boundedForest passed.layers }
  | paginate states =>
    .ofResult do
      return { layers := ← Pagination.apply (states.getD (Pagination.collect layers)) layers }
  | wrapper layerId state => pure { layers := layers ++ [Pagination.buildControls layerId state] }

end PageLayers
