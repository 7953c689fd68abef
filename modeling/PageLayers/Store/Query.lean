import PageLayers.Collection.Item
import PageLayers.Failure

/-!
Data sources. A source answers three queries, each for the published or the draft variant of its
data, and each answer tells how many fetches it took. A source holds finitely many items and fields;
it can list the ids of both.
-/

namespace PageLayers

/-- A state of the data: what visitors see, or what editors are working on. -/
inductive Variant
  | published
  | draft
  deriving DecidableEq, Repr

def Variant.ofFlag (isPublished : Bool) : Variant := if isPublished then published else draft

/-- The answer of a source, or the reason why there is none, and the number of fetches. -/
structure Reply (α : Type) where
  result : Except Failure α
  fetches : Nat := 1

/-- Read-only access to collections. What can be fetched has finitely many ids. -/
structure DataSource where
  items : String → Variant → ItemQuery → Reply ItemPage
  item : String → Variant → Reply (Option Item)
  fields : String → Variant → Reply (List Field)
  finite : ∀ v, ∃ ids : List String, (∀ id i, (item id v).result = .ok (some i) → id ∈ ids) ∧
    ∀ c fs, (fields c v).result = .ok fs → ∀ f ∈ fs, f.id ∈ ids

end PageLayers
