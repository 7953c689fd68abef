import PageLayers.Layer.Ids
import PageLayers.Layer.Basic
import PageLayers.Visibility.Evaluation

/-!
Visibility in a resolved tree. Every collection layer has a number of items, which conditions
anywhere on the page may test; a layer whose expression does not hold is dropped with everything
within it. Expressions are evaluated on the values stamped on the nearest layer around, the layer
itself included. The deeper a layer lies, the less room is left for lists within each other in what
its expression reads. How deep layers may lie at all is not asked here but of what is left, by
`Layer.boundedForest`.
-/

namespace PageLayers

/-- The number of items of each collection layer. Where several fragments stand for one layer the
    last counts. -/
def itemCounts (layers : List Layer) : Entries Int :=
  Entries.ofList (((Layer.preorderForest layers).filter (·.isFragment)).map fun f =>
    (boundId f.id, (f.children.length : Int)))

/-- Layers that are seen, and the ids of those that were found to be hidden. -/
structure Visible where
  layers : List Layer := []
  hidden : List String := []
  deriving DecidableEq, Repr

def hiddenReport (layerId : String) :
    String := s!"Layer '{layerId}' hidden by conditional visibility"

def Element.scope (e : Element) (around : Option Values) : Option Values := e.itemValues <|> around

def Element.isSeen (evaluator : Visibility.Evaluator) (ctx : Visibility.Context) (e : Element) :
    Except Failure Bool :=
  match e.bindings.visibility with
  | none => .ok true
  | some x => if x.isEmpty then .ok true else evaluator x ctx

def Visible.outerRoom : Nat := Json.depthLimit - 10

def Visible.levelRoom : Nat := 3

namespace Layer

mutual
/-- The layer if it is seen, with what is seen within it, where `around` is what an expression
    around it is evaluated against. -/
def visibleIn (evaluator : Visibility.Evaluator) : Layer → Visibility.Context →
    Except Failure Visible
  | ⟨e, children⟩, around => do
    let ctx := { around with itemValues := e.scope around.itemValues }
    if ← e.isSeen evaluator ctx then
      let inner ← visibleForestIn evaluator children
        { ctx with room := ctx.room - Visible.levelRoom }
      return ⟨[⟨e, inner.layers⟩], inner.hidden⟩
    else return ⟨[], [e.id]⟩

def visibleForestIn (evaluator : Visibility.Evaluator) : List Layer → Visibility.Context →
    Except Failure Visible
  | [], _ => .ok {}
  | l :: ls, around => do
    let first ← visibleIn evaluator l around
    let rest ← visibleForestIn evaluator ls around
    return ⟨first.layers ++ rest.layers, first.hidden ++ rest.hidden⟩
end

def visibleForest (evaluator : Visibility.Evaluator) (counts : Entries Int) (layers : List Layer)
    (scope : Option Values) : Except Failure Visible :=
  visibleForestIn evaluator layers { itemValues := scope, counts, room := Visible.outerRoom }

end Layer
end PageLayers
