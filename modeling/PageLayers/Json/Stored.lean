import PageLayers.Failure
import PageLayers.Json.Reader

/-!
JSON text within stored values and tokens. What is no JSON text is left to whoever reads it and is
no failure; a number of too many digits and too many lists or objects within each other are.
-/

namespace PageLayers.Json

/-- The value that stored characters are the JSON text of, if they are any. There is less room than
    usual for lists and objects within each other where the text is itself read deep within
    something. -/
def readStored? (cs : List Char) (room : Nat := depthLimit) : Except Failure (Option Json) :=
  match readWithin room cs with
  | .ok j => .ok (some j)
  | .error .malformed => .ok none
  | .error .integerTooLong => .error .oversizedInteger
  | .error .tooDeep => .error .tooDeep

def fitsIn (room : Nat) (cs : List Char) : Bool :=
  match readWithin room cs with
  | .error .tooDeep => false
  | _ => true

end PageLayers.Json
