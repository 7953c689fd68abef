import PageLayers.Collection.Given
import PageLayers.Json.Display
import PageLayers.Json.Stored

/-!
Stored references. A single reference is the id of an item; any other value is a JSON list of ids,
of which empty elements are left out and elements that are no texts stand for their display text.
What is no such list refers to nothing. Lists are written the way they are read, so that ids come
back as they were.
-/

namespace PageLayers.References

def ofJson : Json → List String
  | .array xs => (xs.filter Json.isTruthy).map Json.display
  | _ => []

def decodeList (raw : String) (room : Nat := Json.depthLimit) : Except Failure (List String) :=
  match Json.readStored? raw.toList room with
  | .ok (some j) => .ok (ofJson j)
  | .ok none => .ok []
  | .error e => .error e

/-- The ids in a stored value of a field, which is read with room for so many lists and objects
    within each other. -/
def decode (type : Option FieldType) (raw : Option String) (room : Nat := Json.depthLimit) :
    Except Failure (List String) :=
  match raw with
  | none => .ok []
  | some raw =>
    if raw = "" then .ok []
    else if type = some .reference then .ok [raw]
    else decodeList raw room

/-- The ids in a value as it is given. One that is no text is the id of a single reference, unless
    it counts as nothing, and holds no ids of other references. -/
def decodeGiven (type : Option FieldType) : Json → Except Failure (List Json)
  | .text raw => List.map .text <$> decode type (some raw)
  | j => .ok (if type = some .reference && j.isTruthy then [j] else [])

def encode (ids : List String) : String := (Json.array (ids.map .text)).render

def encodeGiven (ids : List Json) : String := (Json.array ids).render

end PageLayers.References
