import PageLayers.Collection.Order
import PageLayers.Store.Query

/-!
Collections held in memory, apart for each variant. Items are answered in their manual order, first
restricted to the ids asked for and then cut to the window, so that the total counts the restricted
items. The order in which collections were added decides which of them an item is taken from.
-/

namespace PageLayers

structure Stored where
  fields : List Field := []
  items : Entries Item := []
  deriving DecidableEq, Repr

/-- A collection as it is stored. Of several items with one id the last counts, in the place of the
    first. -/
def Stored.ofItems (fields : List Field) (items : List Item) : Stored :=
  ⟨fields, Entries.ofList (items.map fun i => (i.id, i))⟩

def Stored.select (s : Stored) (query : ItemQuery) : List Item :=
  let items := sortManually (s.items.map (·.2))
  match query.itemIds with
  | some ids => items.filter fun i => ids.contains i.id
  | none => items

/-- A window of items. A limit of zero is none. -/
def ItemQuery.window (query : ItemQuery) (items : List Item) : List Item :=
  let rest := items.drop (query.offset.getD 0)
  match query.limit with
  | none | some 0 => rest
  | some n => rest.take n

def Stored.page (s : Stored) (query : ItemQuery) : ItemPage :=
  let items := s.select query
  ⟨query.window items, items.length⟩

structure Repository where
  published : Entries Stored := []
  draft : Entries Stored := []
  fetches : Nat := 0
  deriving DecidableEq, Repr

namespace Repository

def collections (r : Repository) : Variant → Entries Stored
  | .published => r.published
  | .draft => r.draft

/-- Changes the collections of one variant, or of both if none is given. -/
def change (only : Option Variant) (f : Entries Stored → Entries Stored) (r : Repository) :
    Repository :=
  { r with
    published := if only = some .draft then r.published else f r.published
    draft := if only = some .published then r.draft else f r.draft }

/-- Stores a collection. One that is there is replaced in its place. -/
def add (id : String) (fields : List Field) (items : List Item) (only : Option Variant)
    (r : Repository) : Repository :=
  r.change only (Entries.put id (.ofItems fields items))

def remove (id : String) (only : Option Variant) (r : Repository) : Repository :=
  r.change only (Entries.without id)

def items (r : Repository) (id : String) (v : Variant) (query : ItemQuery) :
    Except Failure ItemPage :=
  match (r.collections v).lookup id with
  | some s => .ok (s.page query)
  | none => .error (.unavailable id)

def item? (r : Repository) (id : String) (v : Variant) : Option Item :=
  (r.collections v).findSome? fun (_, s) => s.items.lookup id

def fields (r : Repository) (id : String) (v : Variant) : List Field :=
  match (r.collections v).lookup id with
  | some s => s.fields
  | none => []

theorem mem_keys_of_lookup {α : Type} {m : Entries α} {k : String} {a : α}
    (h : m.lookup k = some a) : k ∈ m.map (·.1) := by
  induction m with
  | nil => simp at h
  | cons e rest ih =>
    obtain ⟨k', a'⟩ := e
    by_cases same : k = k'
    · simp [same]
    · rw [List.lookup_cons, beq_false_of_ne same] at h
      exact List.mem_cons_of_mem _ (ih h)

theorem mem_of_lookup {α : Type} {m : Entries α} {k : String} {a : α} (h : m.lookup k = some a) :
    (k, a) ∈ m := by
  induction m with
  | nil => simp at h
  | cons e rest ih =>
    obtain ⟨k', a'⟩ := e
    by_cases same : k = k'
    · subst same
      simp at h
      simp [h]
    · rw [List.lookup_cons, beq_false_of_ne same] at h
      exact List.mem_cons_of_mem _ (ih h)

theorem mem_of_item? {r : Repository} {v : Variant} {id : String} {i : Item}
    (found : r.item? id v = some i) :
    id ∈ (r.collections v).flatMap fun (_, s) => s.items.map (·.1) := by
  obtain ⟨e, he, found⟩ := List.exists_of_findSome?_eq_some found
  exact List.mem_flatMap.mpr ⟨e, he, mem_keys_of_lookup found⟩

theorem mem_of_fields {r : Repository} {v : Variant} {id : String} {f : Field}
    (member : f ∈ r.fields id v) :
    f.id ∈ (r.collections v).flatMap fun (_, s) => s.fields.map (·.id) := by
  unfold fields at member
  split at member
  · rename_i s found
    exact List.mem_flatMap.mpr ⟨(id, s), mem_of_lookup found, List.mem_map_of_mem member⟩
  · simp at member

def source (r : Repository) : DataSource where
  items id v query := ⟨r.items id v query, 1⟩
  item id v := ⟨.ok (r.item? id v), 1⟩
  fields id v := ⟨.ok (r.fields id v), 1⟩
  finite v := by
    refine ⟨((r.collections v).flatMap fun (_, s) => s.items.map (·.1)) ++
      (r.collections v).flatMap fun (_, s) => s.fields.map (·.id), ?_, ?_⟩
    · intro id i found
      exact List.mem_append_left _ (mem_of_item? (Except.ok.inj found))
    · intro c fs found f member
      exact List.mem_append_right _ (mem_of_fields (Except.ok.inj found ▸ member))

def afterFetches (n : Nat) (r : Repository) : Repository := { r with fetches := r.fetches + n }

end Repository
end PageLayers
