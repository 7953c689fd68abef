import PageLayers.Document.Fault

/-!
The causes for which a resolution, or a part of it, fails. Violations are faults of the tree itself
and end a resolution; all others are troubles of content or of a data source, which a binding
survives.
-/

namespace PageLayers

inductive Failure
  /-- A node that an earlier resolution left behind stands in the tree to be resolved. -/
  | fragmentInTree (layerId : String)
  /-- A component contains itself through the components in the chain. -/
  | recursiveComponent (id : String) (chain : List String)
  /-- A data source reports a violation. -/
  | violation (message : String)
  /-- A data source has no such collection. -/
  | unavailable (collectionId : String)
  /-- A data source breaks down. -/
  | breakdown (message : String)
  /-- A token names a field, or the fields to follow, by something other than texts. -/
  | malformedPath
  /-- A list, or else an object, stands where the key of an entry is wanted. -/
  | compositeKey (isList : Bool)
  /-- A stored whole number has too many digits. -/
  | oversizedInteger
  /-- A whole number is beyond all floating-point numbers. -/
  | oversizedNumber
  /-- Lists, objects or layers lie too deep within each other to be walked through. -/
  | tooDeep
  /-- Layers and what they hold lie too deep within each other to be written. -/
  | tooDeepToWrite
  /-- What was given in place of values or numbers is faulty. -/
  | faulty (faults : List Document.Fault)
  /-- A value that is to be shown or compared has no text. -/
  | formlessValue
  deriving DecidableEq, Repr

namespace Failure

/-- Whether the failure ends the resolution. -/
def isViolation : Failure → Bool
  | fragmentInTree _ | recursiveComponent _ _ | violation _ => true
  | _ => false

def message : Failure → String
  | fragmentInTree id => s!"Layer '{id}' is a fragment; resolved trees cannot be resolved again"
  | recursiveComponent id chain =>
    let path := " -> ".intercalate (chain ++ [id])
    s!"Component '{id}' contains itself ({path})"
  | violation message => message
  | unavailable id => s!"Collection '{id}' is unavailable"
  | breakdown message => message
  | malformedPath => "the path of a token is not made of texts"
  | compositeKey isList => if isList then "unhashable type: 'list'" else "unhashable type: 'dict'"
  | oversizedInteger => "a whole number has too many digits"
  | oversizedNumber => "a whole number is too large"
  | tooDeep => "values lie too deep within each other"
  | tooDeepToWrite => "layers lie too deep within each other to be written"
  | faulty faults => ", ".intercalate (faults.map fun f => f.location ++ ": " ++ f.kind.name)
  | formlessValue => "a value has no text"

end Failure
end PageLayers
