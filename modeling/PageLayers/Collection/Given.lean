import PageLayers.Collection.Item
import PageLayers.Json.Basic

/-!
Item values as they are given to an operation from outside. The values of a stored item are texts;
given values may be anything, and each operation says what becomes of those that are no texts.
-/

namespace PageLayers

abbrev Given := Entries Json

namespace Given

def ofValues (values : Values) : Given := values.map fun (path, s) => (path, .text s)

def texts (given : Given) : Values :=
  given.filterMap fun (path, j) =>
    match j with
    | .text s => some (path, s)
    | _ => none

/-- Whether a path has a value that counts as something and is no text. -/
def isFormless (given : Given) (path : String) : Bool :=
  match given.lookup path with
  | none | some (.text _) => false
  | some j => j.isTruthy

/-- Values with those that references add to their texts. A path that has a value keeps it. -/
def extendBy (given : Given) (enhanced : Values) : Given :=
  enhanced.foldl (fun m (path, s) => Entries.putNew path (.text s) m) given

theorem lookup_ofValues (values : Values) (path : String) :
    (ofValues values).lookup path = (values.lookup path).map .text := by
  induction values with
  | nil => rfl
  | cons v rest ih =>
    obtain ⟨k, s⟩ := v
    by_cases h : path = k
    · simp [ofValues, h]
    · simpa [ofValues, List.lookup_cons, beq_false_of_ne h] using ih

end Given
end PageLayers
