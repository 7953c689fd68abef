import PageLayers.Failure
import PageLayers.Layer.Basic
import PageLayers.Layer.Ids

/-!
Pagination controls: layers that tell the page of a collection layer and lead to the pages next to
it. A layer that is marked with the id of a collection layer is patched with the state of that
layer's pages, together with all layers within it. Patching forgets an earlier patch. New controls
are built for a state, with a class more than a patch knows of.
-/

namespace PageLayers.Pagination

def targetAttribute : String := "data-pagination-for"

def actionAttribute : String := "data-pagination-action"

def layerAttribute : String := "data-collection-layer-id"

def wrapperAttribute : String := "data-pagination-wrapper"

def currentPageAttribute : String := "data-current-page"

def disabledAttribute : String := "disabled"

def infoSuffix : String := "-pagination-info"

def prevSuffix : String := "-pagination-prev"

def nextSuffix : String := "-pagination-next"

def disabledClasses : List String := ["opacity-50", "cursor-not-allowed"]

def collect (layers : List Layer) : Entries Meta :=
  Entries.ofList ((Layer.preorderForest layers).filterMap fun l =>
    if l.isFragment then l.pagination.map fun m => (boundId l.id, m) else none)

/-- Whether a control with the given id leads nowhere. -/
def isDisabled (m : Meta) (id : String) : Bool :=
  (endsIn prevSuffix id && m.isFirstPage) || (endsIn nextSuffix id && m.isLastPage)

def isButton (id : String) : Bool := endsIn prevSuffix id || endsIn nextSuffix id

def buttonAttributes (m : Meta) (disabled : Bool) (attributes : List (String × Json)) :
    List (String × Json) :=
  let reset := Entries.put currentPageAttribute (.text (toString m.currentPage))
    (Entries.without disabledAttribute attributes)
  if disabled then Entries.put disabledAttribute (.bool true) reset else reset

def buttonClasses (disabled : Bool) (classes : List String) : List String :=
  let reset := classes.filter fun c => !disabledClasses.contains c
  if disabled then reset ++ disabledClasses else reset

def patchElement (m : Meta) (e : Element) : Element :=
  let e :=
    if endsIn infoSuffix e.id then
      { e with bindings := { e.bindings with text := some (.static m.infoText) } }
    else e
  if isButton e.id then
    { e with
      attributes := buttonAttributes m (isDisabled m e.id) e.attributes
      classes := buttonClasses (isDisabled m e.id) e.classes }
  else e

/-- The collection layer that an element is a control of, among those with a state. A list or an
    object cannot name one. -/
def target? (states : Entries Meta) (e : Element) : Except Failure (Option Meta) :=
  match e.attributes.lookup targetAttribute with
  | some (.text id) => .ok (if id = "" then none else states.lookup id)
  | some (.array xs) => if xs.isEmpty then .ok none else .error (.compositeKey true)
  | some (.object ms) => if ms.isEmpty then .ok none else .error (.compositeKey false)
  | _ => .ok none

mutual
def patch (m : Meta) : Layer → Layer
  | ⟨e, children⟩ => ⟨patchElement m e, patchForest m children⟩

def patchForest (m : Meta) : List Layer → List Layer
  | [] => []
  | l :: ls => patch m l :: patchForest m ls
end

mutual
/-- A layer whose outermost controls are patched. -/
def patchMarked (states : Entries Meta) : Layer → Except Failure Layer
  | ⟨e, children⟩ => do
    match ← target? states e with
    | some m => return patch m ⟨e, children⟩
    | none => return ⟨e, ← patchMarkedForest states children⟩

def patchMarkedForest (states : Entries Meta) : List Layer → Except Failure (List Layer)
  | [] => .ok []
  | l :: ls => do
    let l ← patchMarked states l
    return l :: (← patchMarkedForest states ls)
end

def apply (states : Entries Meta) (layers : List Layer) : Except Failure (List Layer) :=
  if states.isEmpty then .ok layers else patchMarkedForest states layers

def button (layerId : String) (m : Meta) (suffix action label : String) (disabled : Bool) :
    Layer where
  id := layerId ++ suffix
  name := "button"
  classes :=
    ["px-4", "py-2", "rounded", "bg-[#e5e7eb]", "hover:bg-[#d1d5db]", "transition-colors"] ++
      (if disabled then disabledClasses else ["cursor-pointer"])
  settings := some { tag := some "button" }
  attributes :=
    [(actionAttribute, .text action), (layerAttribute, .text layerId),
      (currentPageAttribute, .text (toString m.currentPage))] ++
      (if disabled then [(disabledAttribute, .bool true)] else [])
  children := [
    { id := layerId ++ suffix ++ "-text"
      name := "span"
      bindings := { text := some (.static label) } }]

def buildControls (layerId : String) (m : Meta) : Layer where
  id := layerId ++ "-pagination"
  classes := ["flex", "items-center", "justify-center", "gap-4", "mt-4"]
  attributes := [
    (wrapperAttribute, .text "true"), (layerAttribute, .text layerId),
      (targetAttribute, .text layerId)]
  children := [
    button layerId m prevSuffix "prev" "Previous" m.isFirstPage,
    { id := layerId ++ infoSuffix
      name := "span"
      classes := ["text-sm", "text-[#4b5563]"]
      bindings := { text := some (.static m.infoText) } },
    button layerId m nextSuffix "next" "Next" m.isLastPage]

end PageLayers.Pagination
