/-!
The ids that a resolution makes: of the fragment in the place of a bound layer, and of the clone of
the layer for an item.
-/

namespace PageLayers

def fragmentSuffix : String := "-fragment"

def fragmentId (layerId : String) : String := layerId ++ fragmentSuffix

def cloneId (layerId itemId : String) : String := layerId ++ "-item-" ++ itemId

def endsIn (suffix s : String) : Bool := suffix.toList.isSuffixOf s.toList

/-- The id of the bound layer that a fragment stands for; other ids are kept. -/
def boundId (id : String) : String :=
  if endsIn fragmentSuffix id then
    .ofList (id.toList.take (id.toList.length - fragmentSuffix.length))
  else id

end PageLayers
