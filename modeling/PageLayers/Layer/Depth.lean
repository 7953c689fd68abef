import PageLayers.Layer.Basic

/-!
How deep layers, and the values that they hold, lie within each other. A layer is one level. So are,
within it, the value of a slot and the collection that it is bound to; attributes and unknown
settings add the levels of their values. Where values are kept as they are, only layers and the
values of slots count.
-/

namespace PageLayers

def Bindings.depth (v : Bindings) : Nat :=
  if v.populated.isEmpty && v.collection.isNone then 0 else 1

def ElementSettings.depth (s : ElementSettings) : Nat := Json.membersDepth s.others

def Element.depth (e : Element) : Nat :=
  let settings := match e.settings with
    | some s => s.depth
    | none => 0
  max e.bindings.depth (max (Json.membersDepth e.attributes) settings) + 1

def Element.levels (e : Element) : Nat := if e.bindings.populated.isEmpty then 1 else 2

namespace Layer

mutual
def depthWith (own : Element → Nat) : Layer → Nat
  | ⟨e, children⟩ => max (own e) (forestDepthWith own children + 1)

def forestDepthWith (own : Element → Nat) : List Layer → Nat
  | [] => 0
  | l :: ls => max (depthWith own l) (forestDepthWith own ls)
end

/-- The levels of a layer and of all that it and the layers within it hold. -/
def depth : Layer → Nat := depthWith Element.depth

/-- The levels of a layer of which only layers and the values of slots count. -/
def levels : Layer → Nat := depthWith Element.levels

def forestDepth : List Layer → Nat := forestDepthWith Element.depth

end Layer
end PageLayers
