import PageLayers.Collection.Item

/-!
The values of a layer's content slots: fixed content, a field of the item in scope, text with
embedded tokens, or a stored asset.
-/

namespace PageLayers

/-- The field that a slot shows, and the fields to follow from it through references. -/
structure FieldBinding where
  fieldId : String
  relationships : List String := []
  fieldType : Option FieldType := none
  format : Option String := none
  deriving DecidableEq, Repr

def FieldBinding.path (b : FieldBinding) : String := ".".intercalate (b.fieldId :: b.relationships)

inductive SlotValue
  | static (value : String)
  | field (binding : FieldBinding)
  | dynamicText (content : String)
  | asset (id : Option String)
  deriving DecidableEq, Repr

inductive Slot
  | text
  | image
  | video
  | icon
  | link
  deriving DecidableEq, Repr

namespace Slot

def all : List Slot := [text, image, video, icon, link]

def name : Slot → String
  | text => "text"
  | image => "image"
  | video => "video"
  | icon => "icon"
  | link => "link"

end Slot
end PageLayers
