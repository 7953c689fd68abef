import PageLayers.Proofs.Entries
import PageLayers.Proofs.ReferenceValues
import PageLayers.Session

/-!
What a walk through references costs. Over collections in memory the walk always comes to an end,
however often items refer back to each other: each key that it adds to the visited ones takes one
query for an item and, if there is such an item, one for fields. A walk that finds all keys visited
has nothing to do.
-/

namespace PageLayers

/-- The repository as a source that charges for each query what it is said to cost: one for an item
    by the item's id, and one for fields by the id of the collection. -/
def Repository.charging (repo : Repository) (perItem perFields : String → Nat) : DataSource :=
  { repo.source with
    item := fun id v => ⟨.ok (repo.item? id v), perItem id⟩
    fields := fun id v => ⟨.ok (repo.fields id v), perFields id⟩ }

theorem Repository.charging_one (repo : Repository) : repo.charging (fun _ => 1) (fun _ => 1) =
    repo.source := rfl

namespace References

section walks
variable {leads : Leads} {path : String} {n : Nat} {ls : List Link} {w w' : Walk}
    {trail : List Visit}

theorem Walks.unique {trail' : List Visit} {w'' : Walk} (walks : Walks leads path n ls w trail w')
    (other : Walks leads path n ls w trail' w'') : trail = trail' ∧ w' = w'' := by
  induction walks generalizing trail' w'' with
  | done =>
    cases other
    exact ⟨rfl, rfl⟩
  | seen visited _ ih =>
    cases other with
    | seen _ rest => exact ih rest
    | missed fresh => exact absurd visited fresh
    | followed fresh => exact absurd visited fresh
  | missed fresh nowhere _ ih =>
    cases other with
    | seen visited => exact absurd visited fresh
    | missed _ _ rest =>
      obtain ⟨rfl, rfl⟩ := ih rest
      exact ⟨rfl, rfl⟩
    | followed _ found => simp [nowhere] at found
  | followed fresh found _ _ inside rest =>
    cases other with
    | seen visited => exact absurd visited fresh
    | missed _ nowhere => simp [nowhere] at found
    | followed _ found' inside' rest' =>
      rw [found, Option.some.injEq, Prod.mk.injEq] at found'
      obtain ⟨rfl, rfl⟩ := found'
      obtain ⟨rfl, rfl⟩ := inside inside'
      obtain ⟨rfl, rfl⟩ := rest rest'
      exact ⟨rfl, rfl⟩

theorem Walks.fresh (walks : Walks leads path n ls w trail w') : ∀ x ∈ trail,
    x.key ∉ w.visited := by
  induction walks with
  | done =>
    intro x member
    simp at member
  | seen _ _ ih => exact ih
  | missed fresh _ _ ih =>
    intro x member
    rcases List.mem_cons.mp member with rfl | after
    · exact fresh
    · exact fun old => ih x after (List.mem_cons_of_mem _ old)
  | followed fresh _ inside _ within further =>
    intro x member
    rcases mem_followed_iff.mp member with rfl | ⟨y, below, rfl⟩ | later
    · exact fresh
    · exact fun old => within y below (List.mem_cons_of_mem _ old)
    · exact fun old => further x later (inside.grows _ (List.mem_cons_of_mem _ old))

theorem Walks.keys_nodup (walks : Walks leads path n ls w trail w') :
    (trail.map Visit.key).Nodup := by
  induction walks with
  | done => exact .nil
  | seen _ _ ih => exact ih
  | missed _ _ rest ih =>
    refine List.nodup_cons.mpr ⟨?_, ih⟩
    intro again
    obtain ⟨x, member, same⟩ := List.mem_map.mp again
    exact rest.fresh x member (by simp [same])
  | followed _ _ inside rest within further =>
    rw [List.map_cons, List.map_append, List.map_map, Visit.key_comp_under, Visit.key_start]
    refine List.nodup_cons.mpr ⟨?_, List.nodup_append.mpr ⟨within, further, ?_⟩⟩
    · intro again
      rcases List.mem_append.mp again with below | later
      · obtain ⟨x, member, same⟩ := List.mem_map.mp below
        exact inside.fresh x member (by simp [same])
      · obtain ⟨x, member, same⟩ := List.mem_map.mp later
        exact rest.fresh x member (inside.grows _ (by simp [same]))
    · -- What was visited below is visited when the walk goes on.
      intro k below k' later same
      obtain ⟨x, member, rfl⟩ := List.mem_map.mp later
      refine rest.fresh x member ?_
      rw [inside.visited_eq, ← same]
      exact List.mem_append_left _ (List.mem_reverse.mpr below)

theorem Walks.covers (walks : Walks leads path n ls w trail w') : ∀ l ∈ ls, l.key ∈ w'.visited := by
  induction walks with
  | done =>
    intro l member
    simp at member
  | seen visited rest ih => exact List.forall_mem_cons.mpr ⟨rest.grows _ visited, ih⟩
  | missed _ _ rest ih => exact List.forall_mem_cons.mpr ⟨rest.grows _ (by simp), ih⟩
  | followed _ _ inside rest _ ih =>
    exact List.forall_mem_cons.mpr ⟨rest.grows _ (inside.grows _ (by simp)), ih⟩

end walks

section source
variable {source : DataSource} {v : Variant} {follow : Follow} {path : String}

end source

section memory
variable {repo : Repository} {v : Variant} {perItem perFields : String → Nat}

theorem fetchOrSkip_charging (fieldId target itemId : String) :
    fetchOrSkip (repo.charging perItem perFields) v fieldId target itemId =
      match repo.item? itemId v with
      | none => ⟨.ok none, ⟨perItem itemId, []⟩⟩
      | some item =>
        ⟨.ok (some (item, repo.fields target v)), ⟨perItem itemId + perFields target, []⟩⟩ := by
  have asked : Outcome.ofReply ((repo.charging perItem perFields).item itemId v) =
      ⟨.ok (repo.item? itemId v), ⟨perItem itemId, []⟩⟩ := rfl
  unfold fetchOrSkip fetchReferenced
  rw [asked, Outcome.bind_of_ok rfl]
  cases repo.item? itemId v <;> rfl

theorem leads_charging (l : Link) :
    leads (repo.charging perItem perFields) v l =
      (repo.item? l.itemId v).map fun item => (item, repo.fields l.target v) := by
  refine leads_of_fetchOrSkip ?_
  rw [fetchOrSkip_charging]
  cases repo.item? l.itemId v <;> rfl

theorem leads_source (l : Link) :
    leads repo.source v l = (repo.item? l.itemId v).map fun item =>
      (item, repo.fields l.target v) := by
  rw [← Repository.charging_one, leads_charging]

end memory

section stored
variable {repo : Repository} {v : Variant} {values : Values} {fields : List Field}

/-- All items that are stored can be read with the fields of every collection. -/
def ReadableThroughout (repo : Repository) (v : Variant) : Prop :=
  ∀ s ∈ repo.collections v, ∀ e ∈ s.2.items, ∀ t ∈ repo.collections v,
    Readable e.2.values t.2.fields

instance : Decidable (Readable values fields) := inferInstanceAs (Decidable (∀ f ∈ fields, _))

instance : Decidable (ReadableThroughout repo v) :=
  inferInstanceAs (Decidable (∀ s ∈ repo.collections v, _))

theorem stored_of_leads {l : Link} {item : Item} {fields : List Field}
    (found : leads repo.source v l = some (item, fields)) :
    (∃ s ∈ repo.collections v, (l.itemId, item) ∈ s.2.items) ∧
      (fields = [] ∨ ∃ t ∈ repo.collections v, fields = t.2.fields) := by
  rw [leads_source] at found
  obtain ⟨_, stored, same⟩ := Option.map_eq_some_iff.mp found
  rw [Prod.mk.injEq] at same
  obtain ⟨rfl, rfl⟩ := same
  constructor
  · obtain ⟨s, known, held⟩ := List.exists_of_findSome?_eq_some stored
    exact ⟨s, known, Repository.mem_of_lookup held⟩
  · unfold Repository.fields
    cases target : (repo.collections v).lookup l.target with
    | none => exact Or.inl rfl
    | some t => exact Or.inr ⟨_, Repository.mem_of_lookup target, rfl⟩

theorem ReadableThroughout.legible (sound : ReadableThroughout repo v) (trail : List Visit) :
    Legible (leads repo.source v) trail := by
  intro x _ item fields found
  obtain ⟨⟨s, known, held⟩, rfl | ⟨t, target, rfl⟩⟩ := stored_of_leads found
  · intro f member
    simp at member
  · exact sound s known _ held t target

end stored

section ring

def ringId (n : Nat) : String := .ofList (List.replicate (n + 1) 'i')

def ringFields : List Field :=
  [{ id := "next", type := .reference, referenceCollectionId := some "ring" }]

def ringItem (size n : Nat) : Item :=
  { id := ringId n, collectionId := "ring", values := [("next", ringId ((n + 1) % size))] }

def ring (size : Nat) : Repository :=
  ({} : Repository).add "ring" ringFields ((List.range size).map (ringItem size)) none

end ring

end References
end PageLayers
