import Mathlib.Data.List.Infix
import PageLayers.Proofs.FieldOrder
import PageLayers.Proofs.Multiplicity
import PageLayers.Proofs.StoredItems

/-!
The ids that a resolution makes of stored ones. A layer keeps its id; a bound one has a fragment and
clones, whose ids go on from its own. Ids of different layers stay apart unless a stored id goes on
from that of a bound layer in the same way.
-/

namespace PageLayers

/-- What the ids of clones go on with after the id of the layer, before the id of the item and the
    sign that sets it apart. -/
def cloneMark : String := "-item"

/-- Whether a node with the id may be made of the element. -/
def Element.makes (e : Element) (id : String) : Bool :=
  id = e.id || e.isBound &&
    (id = fragmentId e.id || (e.id ++ cloneMark ++ "-").toList.isPrefixOf id.toList)

def Layer.IdsApart (layers : List Layer) : Prop :=
  ((Layer.preorderForest layers).map fun n => n.makes).Pairwise fun made made' => ∀ id,
    made id = true → made' id = false

/-- No stored id is that of the fragment of a bound layer, or goes on from that of a bound layer as
    those of its clones do. -/
def Layer.Unextended (layers : List Layer) : Prop :=
  ∀ b ∈ Layer.preorderForest layers, b.isBound = true → ∀ n ∈ Layer.preorderForest layers,
    n.id ≠ fragmentId b.id ∧ ¬ (b.id ++ cloneMark).toList <+: n.id.toList

instance (layers : List Layer) : Decidable (Layer.Unextended layers) :=
  inferInstanceAs
    (Decidable (∀ b ∈ Layer.preorderForest layers, b.isBound = true →
      ∀ n ∈ Layer.preorderForest layers,
    n.id ≠ fragmentId b.id ∧ ¬ (b.id ++ cloneMark).toList <+: n.id.toList))

theorem boundId_fragmentId (layerId : String) : boundId (fragmentId layerId) = layerId := by
  simp [boundId, fragmentId, endsIn, ← String.length_toList]

theorem fragmentId_inj {a b : String} : fragmentId a = fragmentId b ↔ a = b := by
  constructor
  · intro same
    rw [← boundId_fragmentId a, same, boundId_fragmentId]
  · rintro rfl
    rfl

theorem cloneId_eq (layerId itemId : String) : cloneId layerId itemId = layerId ++ cloneMark ++
    "-" ++ itemId := by
  have mark : "-item-" = cloneMark ++ "-" := by decide
  rw [cloneId, mark, ← String.append_assoc]

theorem Element.makes_id (e : Element) : e.makes e.id = true := by simp [makes]

theorem Element.makes_fragmentId {e : Element} (bound : e.isBound = true) :
    e.makes (fragmentId e.id) = true := by
  simp [makes, bound]

theorem Element.makes_cloneId {e : Element} (bound : e.isBound = true) (itemId : String) :
    e.makes (cloneId e.id itemId) = true := by
  simp [makes, bound, cloneId_eq]

theorem Element.makes_iff {e : Element} {id : String} :
    e.makes id = true ↔ id = e.id ∨ e.isBound = true ∧
    (id = fragmentId e.id ∨ ∃ itemId, id = cloneId e.id itemId) := by
  have clone : (e.id ++ cloneMark ++ "-").toList.isPrefixOf id.toList = true ↔
      ∃ itemId, id = cloneId e.id itemId := by
    rw [List.isPrefixOf_iff_prefix]
    constructor
    · rintro ⟨rest, goesOn⟩
      refine ⟨.ofList rest, ?_⟩
      rw [cloneId_eq, ← String.toList_inj, String.toList_append, String.toList_ofList, goesOn]
    · rintro ⟨itemId, rfl⟩
      exact ⟨itemId.toList, by rw [cloneId_eq]; exact String.toList_append.symm⟩
  simp [makes, ← clone]

section marks
variable {a b i j : List Char}

theorem prefix_or_append (same : a ++ i = b ++ cloneMark.toList ++ j)
    (apart : ¬ b ++ cloneMark.toList <+: a) :
    ∃ t, t ≠ [] ∧ b ++ cloneMark.toList = a ++ t ∧ i = t ++ j := by
  rcases List.append_eq_append_iff.mp same with ⟨t, longer, rest⟩ | ⟨t, shorter, rest⟩
  · refine ⟨t, ?_, longer, rest⟩
    rintro rfl
    exact apart ⟨[], by simpa using longer⟩
  · exact absurd ⟨t, shorter.symm⟩ apart

theorem fragment_ne_clone (apart : ¬ b ++ cloneMark.toList <+: a) :
    a ++ fragmentSuffix.toList ≠ b ++ cloneMark.toList ++ '-' :: j := by
  intro same
  obtain ⟨t, nonempty, _, rest⟩ := prefix_or_append same apart
  -- The suffix has its only dash at the front.
  obtain ⟨c, t, rfl⟩ := List.exists_cons_of_ne_nil nonempty
  have dash : '-' ∈ fragmentSuffix.toList.tail := by simp [rest]
  exact absurd dash (by decide)

theorem clone_ne_clone (differ : a ≠ b) (apart : ¬ b ++ cloneMark.toList <+: a)
    (shorter : b.length ≤ a.length) :
    a ++ cloneMark.toList ++ '-' :: i ≠ b ++ cloneMark.toList ++ '-' :: j := by
  intro same
  rw [List.append_assoc] at same
  obtain ⟨t, nonempty, ends, rest⟩ := prefix_or_append same apart
  have whole : t ≠ cloneMark.toList := by
    rintro rfl
    exact differ (List.append_cancel_right ends).symm
  have short : t.length ≤ cloneMark.toList.length := by
    have lengths := congrArg List.length ends
    simp only [List.length_append] at lengths
    omega
  rcases List.append_eq_append_iff.mp rest with ⟨u, longer, _⟩ | ⟨u, part, after⟩
  · have none : u = [] := by
      rw [longer, List.length_append] at short
      exact List.eq_nil_of_length_eq_zero (by omega)
    exact whole (by simpa [none] using longer)
  · -- The mark has its only dash at the front.
    cases u with
    | nil => exact whole (by simpa using part.symm)
    | cons c u =>
      obtain ⟨rfl, _⟩ := List.cons.inj after
      obtain ⟨first, t, rfl⟩ := List.exists_cons_of_ne_nil nonempty
      have dash : '-' ∈ cloneMark.toList.tail := by simp [part]
      exact absurd dash (by decide)
end marks

theorem toList_cloneId (layerId itemId : String) :
    (cloneId layerId itemId).toList = layerId.toList ++ cloneMark.toList ++ '-' ::
      itemId.toList := by
  have dash : "-".toList = ['-'] := rfl
  simp [cloneId_eq, dash]

theorem prefix_cloneId (layerId itemId : String) : (layerId ++ cloneMark).toList <+:
    (cloneId layerId itemId).toList := by
  rw [toList_cloneId, String.toList_append]
  exact List.prefix_append _ _

theorem fragmentId_ne_cloneId {a b : String} (apart : ¬ (b ++ cloneMark).toList <+: a.toList)
    (itemId : String) : fragmentId a ≠ cloneId b itemId := by
  intro same
  rw [String.toList_append] at apart
  have texts := congrArg String.toList same
  rw [fragmentId, String.toList_append, toList_cloneId] at texts
  exact fragment_ne_clone apart texts

theorem fragmentId_ne_own_cloneId (layerId itemId : String) :
    fragmentId layerId ≠ cloneId layerId itemId := by
  refine fragmentId_ne_cloneId ?_ itemId
  intro shorter
  have lengths := shorter.length_le
  simp only [String.toList_append, List.length_append, cloneMark] at lengths
  exact absurd lengths (by simp)

theorem cloneId_ne_cloneId {a b : String} (differ : a ≠ b)
    (apart : ¬ (b ++ cloneMark).toList <+: a.toList)
    (apart' : ¬ (a ++ cloneMark).toList <+: b.toList) (i j : String) :
    cloneId a i ≠ cloneId b j := by
  intro same
  rw [String.toList_append] at apart apart'
  have texts := congrArg String.toList same
  rw [toList_cloneId, toList_cloneId] at texts
  have unequal : a.toList ≠ b.toList := fun equal => differ (String.toList_inj.mp equal)
  rcases Nat.le_total b.toList.length a.toList.length with shorter | longer
  · exact clone_ne_clone unequal apart shorter texts
  · exact clone_ne_clone unequal.symm apart' longer texts.symm

theorem cloneId_inj {layerId i j : String} : cloneId layerId i = cloneId layerId j ↔ i = j := by
  simp [cloneId]

theorem Element.makes_apart {e o : Element} (differ : e.id ≠ o.id)
    (apart : o.isBound = true → e.id ≠ fragmentId o.id ∧
      ¬ (o.id ++ cloneMark).toList <+: e.id.toList)
    (apart' : e.isBound = true → o.id ≠ fragmentId e.id ∧
      ¬ (e.id ++ cloneMark).toList <+: o.id.toList)
    {id : String} (made : e.makes id = true) : o.makes id = false := by
  by_contra also
  rw [Bool.not_eq_false, makes_iff] at also
  rcases makes_iff.mp made with rfl | ⟨bound, rfl | ⟨itemId, rfl⟩⟩ <;>
    rcases also with same | ⟨bound', same | ⟨itemId', same⟩⟩
  · exact differ same
  · exact (apart bound').1 same
  · exact (apart bound').2 (same ▸ prefix_cloneId o.id itemId')
  · exact (apart' bound).1 same.symm
  · exact differ (fragmentId_inj.mp same)
  · exact fragmentId_ne_cloneId (apart bound').2 itemId' same
  · exact (apart' bound).2 (same ▸ prefix_cloneId e.id itemId)
  · exact fragmentId_ne_cloneId (apart' bound).2 itemId same.symm
  · exact cloneId_ne_cloneId differ (apart bound').2 (apart' bound).2 itemId itemId' same

theorem Layer.idsApart_of_unextended {layers : List Layer}
    (distinct : ((preorderForest layers).map (·.id)).Nodup)
    (unextended : Unextended layers) : IdsApart layers := by
  rw [IdsApart, List.pairwise_map]
  rw [List.Nodup, List.pairwise_map] at distinct
  refine distinct.imp_of_mem fun {m n} first second differ id made => ?_
  exact Element.makes_apart differ (fun bound => unextended n second bound m first)
    (fun bound => unextended m first bound n second) made

/-- A resolver whose source lists no item twice, and whose shuffling neither drops nor repeats any.
    -/
structure Resolver.ShowsOnce (r : Resolver) : Prop where
  answers : r.source.AnswersOnce
  shuffles : ∀ items, (r.shuffle items).Perm items

namespace Resolver
variable {r : Resolver}

theorem filterItems_sublist {evaluator : Visibility.Evaluator} {x : Visibility.Expression}
    {items kept : List Item}
    (filtered : filterItems evaluator x items = .ok kept) : kept.Sublist items := by
  induction items generalizing kept with
  | nil =>
    simp only [filterItems, Except.ok.injEq] at filtered
    exact filtered ▸ List.Sublist.refl _
  | cons item items ih =>
    simp only [filterItems, exceptBind_ok_iff, exceptPure_ok_iff] at filtered
    obtain ⟨keep, _, rest, others, rfl⟩ := filtered
    cases keep with
    | true => exact (ih others).cons_cons item
    | false => exact (ih others).cons item

theorem applyFilters_sublist {evaluator : Visibility.Evaluator}
    {filters : Option Visibility.Expression}
    {items kept : List Item} (filtered : applyFilters evaluator filters items = .ok kept) :
    kept.Sublist items := by
  unfold applyFilters at filtered
  split at filtered
  · rw [Except.ok.injEq] at filtered
    exact filtered ▸ List.Sublist.refl _
  · split at filtered
    · rw [Except.ok.injEq] at filtered
      exact filtered ▸ List.Sublist.refl _
    · exact filterItems_sublist filtered

theorem sortItems_perm {shuffle : List Item → List Item}
    (shuffles : ∀ items, (shuffle items).Perm items)
    (mode : SortMode) (order : SortOrder) (items : List Item) (sorter : Sorter) :
    (sorter.sortItems shuffle mode order items).Perm items := by
  cases mode with
  | asFetched => exact List.Perm.refl _
  | manual => exact List.mergeSort_perm _ _
  | random => exact shuffles items
  | field id => exact sortByField_perm sorter id order items

theorem ShowsOnce.select_nodup (shown : r.ShowsOnce) {layerId : String} {s : CollectionSource}
    {scope : Option Given}
    {selection : Selection} (selected : (r.select layerId s scope).result = .ok selection) :
    (selection.items.map (·.id)).Nodup := by
  obtain ⟨_, page, items, _, answered, _, filtered, _, _, _, sorted⟩ := select_ok_iff.mp selected
  have once : (page.items.map (·.id)).Nodup := shown.answers _ _ _ page answered
  have kept := once.sublist ((applyFilters_sublist filtered).map (·.id))
  rw [sorted]
  exact ((sortItems_perm shown.shuffles _ _ items _).map (·.id)).nodup_iff.mpr kept

theorem clones_ids {e : Element} {items : List Item} {clones : List Element}
    (cloned : List.Forall₂
      (fun item o => ∃ slug values, (cloneElement e item slug values).SameButSlots o) items clones)
        :
    clones.map (·.id) = items.map fun item => cloneId e.id item.id := by
  induction cloned with
  | nil => rfl
  | cons first _ ih =>
    obtain ⟨slug, values, same⟩ := first
    rw [List.map_cons, List.map_cons, ih, same.id]
    rfl

theorem cloneIds_nodup {layerId : String} {items : List Item} (once : (items.map (·.id)).Nodup) :
    (fragmentId layerId :: items.map fun item => cloneId layerId item.id).Nodup := by
  rw [List.nodup_cons]
  constructor
  · intro member
    obtain ⟨item, _, same⟩ := List.mem_map.mp member
    exact fragmentId_ne_own_cloneId layerId item.id same.symm
  · rw [List.Nodup, List.pairwise_map] at once ⊢
    exact once.imp fun differ same => differ (cloneId_inj.mp same)

theorem ShowsOnce.makesOnce (shown : r.ShowsOnce) (id : String) :
    r.MakesOnce (fun e => e.makes id) (fun o => decide (o.id = id)) where
  filled e o same := by rw [same.id]
  kept e plain made := by
    rw [decide_eq_true_eq] at made
    exact made ▸ e.makes_id
  expanded e s scope selection clones plain binding selected cloned := by
    have bound : e.isBound = true := by rw [Element.isBound, binding]; rfl
    have ids :
      (fragmentElement e (selection.window.pageMeta e.id s.id selection.total) :: clones).map
        (·.id) =
        fragmentId e.id :: selection.items.map fun item => cloneId e.id item.id := by
      rw [List.map_cons, clones_ids cloned]
      rfl
    by_cases made : e.makes id = true
    · have distinct := ids ▸ cloneIds_nodup (shown.select_nodup selected)
      have few := List.nodup_iff_count_le_one.mp distinct id
      rw [List.count, List.countP_map] at few
      rw [if_pos made]
      exact few
    · rw [if_neg made, Nat.le_zero, List.countP_eq_zero]
      intro o member same
      rw [decide_eq_true_eq] at same
      have known : o.id ∈ fragmentId e.id :: selection.items.map fun item => cloneId e.id item.id :=
        ids ▸ List.mem_map_of_mem member
      rw [same] at known
      rcases List.mem_cons.mp known with rfl | clone
      · exact made (Element.makes_fragmentId bound)
      · obtain ⟨item, _, rfl⟩ := List.mem_map.mp clone
        exact made (Element.makes_cloneId bound item.id)

end Resolver
end PageLayers
