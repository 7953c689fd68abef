import PageLayers.Failure
import PageLayers.Layer.Basic

/-!
Expansion of components. A layer that names a known component is an instance of it and gets the
component's layers as its children; these may hold further instances. A component may not contain
itself, and layers that come to lie too deep within each other are not expanded.
-/

namespace PageLayers.Component

/-- The component that an element is an instance of. Of several with one id the last counts. -/
def ofInstance? (known : List Component) (e : Element) : Option Component :=
  match e.componentId with
  | none => none
  | some id => if id = "" then none else known.reverse.find? (·.id = id)

def expansionLimit : Nat := 495

/-- A layer with all instances in it expanded, within the components of the chain. At most `room`
    layers may come to lie within each other. -/
def expandLayer (known : List Component) : Nat → List String → Layer → Except Failure Layer
  | 0, _, _ => .error .tooDeep
  | room + 1, chain, ⟨e, children⟩ =>
    match ofInstance? known e with
    | some c =>
      if chain.contains c.id then .error (.recursiveComponent c.id chain)
      else return ⟨e, ← c.layers.mapM (expandLayer known room (chain ++ [c.id]))⟩
    | none => return ⟨e, ← children.mapM (expandLayer known room chain)⟩

/-- Layers with all instances expanded. Where no component is known, they are not gone through. -/
def expand (known : List Component) (layers : List Layer) : Except Failure (List Layer) :=
  if known.isEmpty then .ok layers else layers.mapM (expandLayer known expansionLimit [])

def missingReport? (known : List Component) (l : Layer) : Option String :=
  match l.componentId, ofInstance? known l.toElement with
  | some id, none =>
    if id = "" then none
    else
      let layerId := l.id
      some s!"Component '{id}' not found for layer '{layerId}'"
  | _, _ => none

/-- The reports on expanded layers; there are none where no component is known. -/
def missingReports (known : List Component) (layers : List Layer) : List String :=
  if known.isEmpty then [] else (Layer.preorderForest layers).filterMap (missingReport? known)

end PageLayers.Component
