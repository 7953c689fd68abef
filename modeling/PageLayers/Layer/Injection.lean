import PageLayers.Layer.Basic
import PageLayers.Layer.Token

/-!
Injection of an item into a layer: content slots that show fields of the item become fixed content.
The slots are filled one after the other, down to the layers that have an item of their own, which
are those bound to a collection and the fragments that stand for such layers; these are left as they
are. The deeper a layer lies, the less room is left for lists within each other in its tokens; where
they do not fit, the injection fails.
-/

namespace PageLayers

/-- A slot value with the item's values put in. An asset field becomes an asset, and one without a
    value an asset without an id. -/
def SlotValue.inject (values : Values) : SlotValue → Except Failure SlotValue
  | .field binding =>
    let value := (values.lookup binding.path).getD ""
    if binding.fieldType.any FieldType.isAsset then
      .ok (.asset (if value = "" then none else some value))
    else .ok (.static value)
  | .dynamicText content => .static <$> Token.resolve (some values) content
  | v => .ok v

abbrev Filler := SlotValue → Except Failure SlotValue

def fillSlot (fill : Filler) : Option SlotValue → Except Failure (Option SlotValue)
  | none => .ok none
  | some v => some <$> fill v

def Bindings.fill (fill : Filler) (v : Bindings) : Except Failure Bindings := do
  let text ← fillSlot fill v.text
  let image ← fillSlot fill v.image
  let video ← fillSlot fill v.video
  let icon ← fillSlot fill v.icon
  let link ← fillSlot fill v.link
  return { v with text, image, video, icon, link }

/-- Whether the element has, or stands for, an item of its own. -/
def Element.hasOwnScope (e : Element) : Bool := e.isBound || e.isFragment

def Element.fill (fill : Filler) (e : Element) : Except Failure Element := do
  return { e with bindings := ← e.bindings.fill fill }

def SlotValue.tokensFit (room : Nat) : SlotValue → Bool
  | .dynamicText content => Token.fitIn room content
  | _ => true

def Bindings.tokensFit (room : Nat) (v : Bindings) : Bool :=
  Slot.all.all fun slot => (v.get slot).all (SlotValue.tokensFit room)

namespace Layer

def tokenRoom : Nat := Json.depthLimit - 6

def tokenLevelRoom : Nat := 2

mutual
/-- Whether the tokens of a layer can be read, down to the layers that have an item of their own. -/
def tokensFit : Nat → Layer → Bool
  | room, ⟨e, children⟩ =>
    e.hasOwnScope || (e.bindings.tokensFit room && forestTokensFit (room - tokenLevelRoom) children)

def forestTokensFit : Nat → List Layer → Bool
  | _, [] => true
  | room, l :: ls => tokensFit room l && forestTokensFit room ls
end

mutual
/-- A layer whose content slots have been filled, down to the layers that have an item of their own.
    -/
def fill (filler : Filler) : Layer → Except Failure Layer
  | ⟨e, children⟩ =>
    if e.hasOwnScope then .ok ⟨e, children⟩
    else do
      let e ← e.fill filler
      return ⟨e, ← fillForest filler children⟩

def fillForest (filler : Filler) : List Layer → Except Failure (List Layer)
  | [] => .ok []
  | l :: ls => do
    let l ← fill filler l
    return l :: (← fillForest filler ls)
end

def fillFitting (filler : Filler) (l : Layer) : Except Failure Layer := do
  let filled ← fill filler l
  if tokensFit tokenRoom l then return filled else throw .tooDeep

theorem fillFitting_eq_ok_iff {filler : Filler} {l filled : Layer} :
    fillFitting filler l = .ok filled ↔ fill filler l = .ok filled ∧
    tokensFit tokenRoom l = true := by
  cases h : fill filler l <;> by_cases fits : tokensFit tokenRoom l = true <;>
    simp [fillFitting, h, fits, bind, Except.bind, pure, Except.pure, throw, throwThe,
      MonadExceptOf.throw]

def fillFittingForest (filler : Filler) (layers : List Layer) : Except Failure (List Layer) := do
  let filled ← fillForest filler layers
  if forestTokensFit tokenRoom layers then return filled else throw .tooDeep

theorem fillFittingForest_eq_ok_iff {filler : Filler} {layers filled : List Layer} :
    fillFittingForest filler layers = .ok filled ↔
      fillForest filler layers = .ok filled ∧ forestTokensFit tokenRoom layers = true := by
  cases h : fillForest filler layers <;> by_cases fits : forestTokensFit tokenRoom layers = true <;>
    simp [fillFittingForest, h, fits, bind, Except.bind, pure, Except.pure, throw, throwThe,
      MonadExceptOf.throw]

def inject (values : Values) : Layer → Except Failure Layer := fillFitting (SlotValue.inject values)

def injectForest (values : Values) : List Layer → Except Failure (List Layer) :=
  fillFittingForest (SlotValue.inject values)

end Layer
end PageLayers
