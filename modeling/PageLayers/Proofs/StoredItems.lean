import Mathlib.Data.List.Induction
import Mathlib.Data.List.Nodup
import PageLayers.Proofs.Entries
import PageLayers.Proofs.Selection

/-!
What collections in memory hold and answer. Items are stored by their ids, each id once, and an
answer lists no item twice. Items that are stored in their manual order are answered in the order in
which they are stored.
-/

namespace PageLayers

def DataSource.AnswersOnce (source : DataSource) : Prop :=
  ∀ id v query page, (source.items id v query).result = .ok page → (page.items.map (·.id)).Nodup

structure Stored.Keyed (s : Stored) : Prop where
  once : (s.items.map (·.1)).Nodup
  named : ∀ entry ∈ s.items, entry.2.id = entry.1

theorem Stored.ofItems_keyed (fields : List Field) (items : List Item) :
    (Stored.ofItems fields items).Keyed where
  once := Entries.nodup_ofList _
  named entry member := by
    obtain ⟨item, _, rfl⟩ := List.mem_map.mp (Entries.mem_ofList member)
    rfl

theorem ItemQuery.window_sublist (query : ItemQuery) (items : List Item) :
    (query.window items).Sublist items := by
  unfold window
  split
  · exact List.drop_sublist _ _
  · exact List.drop_sublist _ _
  · exact (List.take_sublist _ _).trans (List.drop_sublist _ _)

theorem Stored.Keyed.page_nodup {s : Stored} (keyed : s.Keyed) (query : ItemQuery) :
    ((s.page query).items.map (·.id)).Nodup := by
  have ids : (s.items.map (·.2)).map (·.id) = s.items.map (·.1) := by
    rw [List.map_map]
    exact List.map_congr_left keyed.named
  have ordered : ((sortManually (s.items.map (·.2))).map (·.id)).Nodup := by
    have sorted : (sortManually (s.items.map (·.2))).Perm (s.items.map (·.2)) :=
      List.mergeSort_perm _ _
    rw [(sorted.map _).nodup_iff, ids]
    exact keyed.once
  have fewer : (s.page query).items.Sublist (sortManually (s.items.map (·.2))) := by
    refine (query.window_sublist _).trans ?_
    rw [s.select_eq]
    unfold restrictTo
    split
    · exact List.filter_sublist
    · exact List.Sublist.refl _
  exact ordered.sublist (fewer.map _)

namespace Repository

def Keyed (r : Repository) : Prop := ∀ v, ∀ entry ∈ r.collections v, entry.2.Keyed

theorem keyed_empty : ({} : Repository).Keyed := by
  intro v entry member
  cases v <;> simp [collections] at member

theorem keyed_change {r : Repository} (keyed : r.Keyed) (only : Option Variant)
    {f : Entries Stored → Entries Stored}
    (change : ∀ m : Entries Stored, (∀ entry ∈ m, entry.2.Keyed) → ∀ entry ∈ f m, entry.2.Keyed) :
    (r.change only f).Keyed := by
  intro v
  have changed := change _ (keyed v)
  have collections_eq : (r.change only f).collections v = r.collections v ∨
      (r.change only f).collections v = f (r.collections v) := by
    cases v <;> simp only [Repository.change, collections] <;> split <;> simp
  rcases collections_eq with same | new
  · exact same ▸ keyed v
  · exact new ▸ changed

theorem keyed_add {r : Repository} (keyed : r.Keyed) (id : String) (fields : List Field)
    (items : List Item) (only : Option Variant) : (r.add id fields items only).Keyed := by
  refine keyed_change keyed only fun m all entry member => ?_
  rcases Entries.mem_put member with rfl | earlier
  · exact Stored.ofItems_keyed fields items
  · exact all entry earlier

theorem Keyed.answersOnce {r : Repository} (keyed : r.Keyed) : r.source.AnswersOnce := by
  intro id v query page answered
  simp only [source, items] at answered
  split at answered
  · rename_i s found
    rw [Except.ok.injEq] at answered
    exact answered ▸ (keyed v _ (mem_of_lookup found)).page_nodup query
  · simp at answered

def plainItems (r : Repository) (id : String) (v : Variant) (query : ItemQuery) :
    Except Failure ItemPage :=
  match (r.collections v).lookup id with
  | some s =>
    let items := restrictTo query.itemIds (s.items.map (·.2))
    .ok ⟨query.window items, items.length⟩
  | none => .error (.unavailable id)

/-- The repository as a source that does not order items. -/
def plainSource (r : Repository) : DataSource :=
  { r.source with items := fun id v query => ⟨r.plainItems id v query, 1⟩ }

theorem source_eq_plainSource {r : Repository}
    (ordered : ∀ v, ∀ entry ∈ r.collections v, (entry.2.items.map (·.2)).Pairwise fun a b =>
      a.manualOrder ≤ b.manualOrder) :
    r.source = r.plainSource := by
  have items : r.items = r.plainItems := by
    funext id v query
    unfold Repository.items plainItems
    cases found : (r.collections v).lookup id with
    | none => rfl
    | some s =>
      have sorted : sortManually (s.items.map (·.2)) = s.items.map (·.2) :=
        List.mergeSort_of_pairwise (by simpa using ordered v _ (mem_of_lookup found))
      simp only [Stored.page, Stored.select_eq, sorted]
  simp only [plainSource, source, items]

end Repository
end PageLayers
