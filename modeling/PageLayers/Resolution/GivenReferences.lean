import PageLayers.Resolution.References

/-!
Following references from values as they are given. No item has an id that is no text. Such an id
counts as followed all the same: asking for it takes a fetch and finds nothing, except that a list
or an object cannot be asked for.
-/

namespace PageLayers.References

/-- Asks for an item by an id that is no text. -/
def missItem (fieldId : String) : Json → Outcome Unit
  | .array _ => Outcome.warn (.skippedReference fieldId (.compositeKey true))
  | .object _ => Outcome.warn (.skippedReference fieldId (.compositeKey false))
  | _ => Outcome.ofReply ⟨.ok (), 1⟩

def visitGivenItem (source : DataSource) (v : Variant) (follow : Follow)
    (fieldId collectionId path : String) (w : Walk) : Json → Outcome Walk
  | .text itemId => visitItem source v follow fieldId collectionId path w itemId
  | id =>
    let key := visitKey fieldId id.display
    if w.visited.contains key then pure w
    else do
      missItem fieldId id
      return { w with visited := key :: w.visited }

def visitGivenField (source : DataSource) (v : Variant) (follow : Follow) (given : Given)
    (path : String) (w : Walk) (f : Field) : Outcome Walk :=
  match target? f with
  | none => pure w
  | some collectionId => do
    let ids ← Outcome.ofResult (decodeGiven (some f.type) ((given.lookup f.id).getD .null))
    ids.foldlM (visitGivenItem source v follow f.id collectionId (extendPath path f.id)) w

/-- Follows all references of given values. The values of referenced items are gathered beside the
    texts among them. -/
def walkGiven (source : DataSource) (v : Variant) (given : Given) (fields : List Field)
    (path : String) (visited : List String) : Outcome Walk :=
  let follow := followWithin source v depthLimit
  fields.foldlM (visitGivenField source v follow given path) ⟨visited, given.texts⟩

def enhanceGiven (source : DataSource) (v : Variant) (given : Given) (fields : List Field) :
    Outcome Given :=
  (fun w => given.extendBy w.values) <$> walkGiven source v given fields "" []

end PageLayers.References
