/-!
Maps from texts in the order in which their keys first came: item values, attributes, counts by
layer, and everything else that is written as an object. Reading one is `List.lookup`.
-/

namespace PageLayers

/-- A map from texts, in order of first insertion. -/
abbrev Entries (α : Type) := List (String × α)

namespace Entries
variable {α : Type}

/-- Gives the key a value; a key that has one keeps its place. -/
def put (key : String) (value : α) : Entries α → Entries α
  | [] => [(key, value)]
  | (k, v) :: rest => if k = key then (key, value) :: rest else (k, v) :: put key value rest

def putNew (key : String) (value : α) (m : Entries α) : Entries α :=
  if (m.lookup key).isSome then m else m ++ [(key, value)]

def without (key : String) (m : Entries α) : Entries α := m.filter (·.1 ≠ key)

/-- The map that results from giving the keys their values in turn: the last value of a key counts.
    -/
def ofList (entries : List (String × α)) : Entries α :=
  entries.foldl (fun m (k, v) => put k v m) []

theorem lookup_put (key k : String) (value : α) (m : Entries α) :
    (put key value m).lookup k = if k = key then some value else m.lookup k := by
  induction m with
  | nil =>
    by_cases h : k = key
    · simp [put, h]
    · simp [put, List.lookup_cons, beq_false_of_ne h, h]
  | cons e rest ih =>
    obtain ⟨k', v'⟩ := e
    by_cases h' : k' = key
    · subst h'
      by_cases h : k = k'
      · simp [put, h]
      · simp [put, List.lookup_cons, beq_false_of_ne h, h]
    · by_cases h : k = k'
      · subst h
        simp [put, h']
      · simp [put, h', List.lookup_cons, beq_false_of_ne h, ih]

end Entries
end PageLayers
