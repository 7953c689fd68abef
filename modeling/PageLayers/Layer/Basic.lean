import PageLayers.Collection.Order
import PageLayers.Json.Basic
import PageLayers.Layer.Slot
import PageLayers.Pagination.Basic
import PageLayers.Visibility.Condition

/-!
Layers, the nodes of a page. What a layer says about itself is its element; apart from it there are
only its children, so that an equation between elements says that nothing but children differs.
-/

namespace PageLayers

structure CollectionSource where
  id : String
  sortBy : Option String := none
  sortOrder : SortOrder := .ascending
  limit : Option Nat := none
  offset : Option Nat := none
  sourceFieldId : Option String := none
  sourceFieldType : Option FieldType := none
  filters : Option Visibility.Expression := none
  pagination : Option Pagination.Config := none
  deriving DecidableEq, Repr

/-- The pagination settings of a binding whose items are divided into pages. -/
def CollectionSource.paging? (s : CollectionSource) : Option Pagination.Config :=
  s.pagination.filter (·.isPaged)

def CollectionSource.isPaginated (s : CollectionSource) : Bool := s.paging?.isSome

structure Bindings where
  text : Option SlotValue := none
  image : Option SlotValue := none
  video : Option SlotValue := none
  icon : Option SlotValue := none
  link : Option SlotValue := none
  collection : Option CollectionSource := none
  visibility : Option Visibility.Expression := none
  deriving DecidableEq, Repr

namespace Bindings

def get (v : Bindings) : Slot → Option SlotValue
  | .text => v.text
  | .image => v.image
  | .video => v.video
  | .icon => v.icon
  | .link => v.link

def populated (v : Bindings) : List Slot := Slot.all.filter fun s => (v.get s).isSome

end Bindings

/-- Settings of a particular kind of element. Members that are not known are kept. -/
structure ElementSettings where
  tag : Option String := none
  hidden : Option Bool := none
  customAttributes : Option (Entries String) := none
  others : List (String × Json) := []
  deriving DecidableEq, Repr

/-- What a layer says about itself. The last four fields are stamped by a resolution. -/
structure Element where
  id : String
  name : String := "div"
  customName : Option String := none
  classes : List String := []
  bindings : Bindings := {}
  attributes : List (String × Json) := []
  settings : Option ElementSettings := none
  componentId : Option String := none
  itemId : Option String := none
  itemSlug : Option String := none
  itemValues : Option Values := none
  pagination : Option Pagination.Meta := none
  deriving DecidableEq, Repr

def fragmentName : String := "_fragment"

namespace Element

/-- Whether the element stands for a bound layer that has been resolved. -/
def isFragment (e : Element) : Bool := e.name = fragmentName

/-- The collection that the element is bound to. A source without an id binds nothing. -/
def binding? (e : Element) : Option CollectionSource := e.bindings.collection.filter (·.id ≠ "")

def isBound (e : Element) : Bool := e.binding?.isSome

end Element

structure Layer extends Element where
  children : List Layer := []
  deriving Repr

structure Component where
  id : String
  name : String := ""
  layers : List Layer := []
  deriving Repr

namespace Layer

mutual
def same : Layer → Layer → Bool
  | ⟨e, cs⟩, ⟨e', cs'⟩ => e = e' && sameForest cs cs'

def sameForest : List Layer → List Layer → Bool
  | [], [] => true
  | l :: ls, l' :: ls' => same l l' && sameForest ls ls'
  | _, _ => false
end

mutual
theorem same_iff_eq : ∀ l l' : Layer, same l l' = true ↔ l = l'
  | ⟨e, cs⟩, ⟨e', cs'⟩ => by simp [same, sameForest_iff_eq cs cs']

theorem sameForest_iff_eq : ∀ ls ls' : List Layer, sameForest ls ls' = true ↔ ls = ls'
  | [], ls' => by cases ls' <;> simp [sameForest]
  | l :: ls, ls' => by
    cases ls' with
    | nil => simp [sameForest]
    | cons l' ls' => simp [sameForest, same_iff_eq l l', sameForest_iff_eq ls ls']
end

instance : DecidableEq Layer := fun a b => decidable_of_iff _ (same_iff_eq a b)

mutual
def preorder : Layer → List Layer
  | ⟨e, cs⟩ => ⟨e, cs⟩ :: preorderForest cs

def preorderForest : List Layer → List Layer
  | [] => []
  | l :: ls => preorder l ++ preorderForest ls
end

def find? (id : String) (layers : List Layer) : Option Layer :=
  (preorderForest layers).find? (·.id = id)

end Layer
end PageLayers
