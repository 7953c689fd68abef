import PageLayers.Pagination.Controls
import PageLayers.Proofs.Ids
import PageLayers.Resolution.Visible

/-!
Numbers of items and states of pages, which are told by the id of the bound layer. A layer within
another bound one is expanded anew for each item of that one, so several fragments may stand for it,
and the last of them in the tree is the one that counts. A layer that lies in no other bound layer
has one fragment at most.
-/

namespace PageLayers

def Layer.standsFor (layerId : String) (n : Layer) : Bool := n.isFragment && boundId n.id = layerId

def lastFragment? (layerId : String) (layers : List Layer) : Option Layer :=
  (Layer.preorderForest layers).reverse.find? (Layer.standsFor layerId)

theorem lookup_itemCounts (layerId : String) (layers : List Layer) :
    (itemCounts layers).lookup layerId = (lastFragment? layerId layers).map fun f =>
      (f.children.length : Int) := by
  rw [itemCounts, Entries.lookup_ofList, ← List.map_reverse, ← List.filter_reverse, lastFragment?]
  induction (Layer.preorderForest layers).reverse with
  | nil => rfl
  | cons n ns ih =>
    by_cases fragment : n.isFragment = true
    · by_cases same : boundId n.id = layerId
      · simp [fragment, same, Layer.standsFor]
      · have other : (layerId == boundId n.id) = false := beq_false_of_ne (Ne.symm same)
        simpa [fragment, same, Layer.standsFor, List.lookup_cons, other] using ih
    · simpa [fragment, Layer.standsFor] using ih

def toldStates (nodes : List Layer) : List (String × Pagination.Meta) :=
  nodes.filterMap fun l => if l.isFragment then l.pagination.map fun m => (boundId l.id, m)
    else none

theorem lookup_toldStates {layerId : String} {ns : List Layer}
    (told : ∀ n ∈ ns, n.standsFor layerId = true → n.pagination.isSome = true) :
    (toldStates ns).lookup layerId = (ns.find? (Layer.standsFor layerId)).bind (·.pagination) := by
  induction ns with
  | nil => rfl
  | cons n ns ih =>
    have rest := ih fun m member => told m (List.mem_cons_of_mem _ member)
    rw [toldStates] at rest ⊢
    by_cases here : n.standsFor layerId = true
    · obtain ⟨m, state⟩ := Option.isSome_iff_exists.mp (told n List.mem_cons_self here)
      rw [List.find?_cons_of_pos here]
      simp only [Layer.standsFor, Bool.and_eq_true, decide_eq_true_eq] at here
      simp [here.1, here.2, state]
    · rw [List.find?_cons_of_neg here, ← rest]
      simp only [Layer.standsFor, Bool.and_eq_true, decide_eq_true_eq, not_and] at here
      by_cases fragment : n.isFragment = true
      · cases state : n.pagination with
        | none => simp [fragment, state]
        | some m =>
          simp [fragment, state, List.lookup_cons, beq_false_of_ne (Ne.symm (here fragment))]
      · simp [fragment]

theorem lookup_toldStates_of_untold {layerId : String} {ns : List Layer}
    (untold : ∀ n ∈ ns, n.standsFor layerId = true → n.pagination = none) :
    (toldStates ns).lookup layerId = none := by
  rw [List.lookup_eq_none_iff]
  intro entry told
  obtain ⟨n, member, tells⟩ := List.mem_filterMap.mp told
  by_cases fragment : n.isFragment = true
  · simp only [fragment, if_true, Option.map_eq_some_iff] at tells
    obtain ⟨m, state, rfl⟩ := tells
    have other : boundId n.id ≠ layerId := by
      intro same
      simpa [state] using untold n member (by simp [Layer.standsFor, fragment, same])
    simp [Ne.symm other]
  · simp [fragment] at tells

/-- Where all fragments of a bound layer tell the state of its pages, or none does, it is the last
    one's that counts. -/
theorem lookup_collect {layerId : String} {layers : List Layer} {paged : Bool}
    (uniform : ∀ n ∈ Layer.preorderForest layers, n.standsFor layerId = true →
      n.pagination.isSome = paged) :
    (Pagination.collect layers).lookup layerId = (lastFragment? layerId layers).bind
      (·.pagination) := by
  have reversed : ∀ n ∈ (Layer.preorderForest layers).reverse, n.standsFor layerId = true →
    n.pagination.isSome = paged :=
    fun n member => uniform n (List.mem_reverse.mp member)
  rw [Pagination.collect, Entries.lookup_ofList, ← List.filterMap_reverse, lastFragment?]
  cases paged with
  | true => exact lookup_toldStates reversed
  | false =>
    have untold : ∀ n ∈ (Layer.preorderForest layers).reverse, n.standsFor layerId = true →
      n.pagination = none :=
      fun n member stands => by simpa using reversed n member stands
    refine (lookup_toldStates_of_untold untold).trans ?_
    cases found : (Layer.preorderForest layers).reverse.find? (Layer.standsFor layerId) with
    | none => rfl
    | some n => exact (untold n (List.mem_of_find?_eq_some found) (List.find?_some found)).symm

namespace Resolver
variable {r : Resolver}

theorem select_window {layerId : String} {s : CollectionSource} {scope : Option Given}
    {selection : Selection} (selected : (r.select layerId s scope).result = .ok selection) :
    selection.window = s.fetchWindow r.settings r.request layerId := by
  obtain ⟨_, _, _, _, _, _, _, _, window, _⟩ := select_ok_iff.mp selected
  exact window

theorem select_fields {layerId : String} {s : CollectionSource} {scope : Option Given}
    {selection : Selection} (selected : (r.select layerId s scope).result = .ok selection) :
    (r.source.fields s.id r.variant).result = .ok selection.fields := by
  obtain ⟨_, _, _, _, _, fields, _⟩ := select_ok_iff.mp selected
  exact fields

end Resolver

def Element.isPaged (e : Element) : Bool := (e.binding?.bind (·.paging?)).isSome

theorem CollectionSource.pageMeta_isSome (s : CollectionSource) (settings : Settings)
    (request : Pagination.Request) (layerId collectionId : String) (total : Int) :
    ((s.fetchWindow settings request layerId).pageMeta layerId collectionId total).isSome =
      s.paging?.isSome := by
  unfold fetchWindow
  cases s.paging? <;> rfl

theorem Resolver.fragments_once (r : Resolver) (like : String → Bool → Bool) :
    r.MakesOnce (fun e => like (fragmentId e.id) e.isPaged)
      (fun o => o.isFragment && like o.id o.pagination.isSome) where
  filled e o same := by
    rw [same.isFragment, same.id,
      show o.pagination = e.pagination from congrArg (·.pagination) same]
  kept e plain made := by simp [plain] at made
  expanded e s scope selection clones plain binding selected cloned := by
    have none : clones.countP (fun o => o.isFragment && like o.id o.pagination.isSome) = 0 := by
      rw [List.countP_eq_zero]
      intro o member
      obtain ⟨item, _, slug, values, same⟩ := forall₂_mem_right cloned member
      have unmarked : o.isFragment = false := same.isFragment.trans plain
      simp [unmarked]
    have paged : e.isPaged = s.paging?.isSome := by rw [Element.isPaged, binding]; rfl
    rw [List.countP_cons, none, select_window selected]
    simp [fragmentElement, Element.isFragment, CollectionSource.pageMeta_isSome, paged]

namespace Resolver
variable {r : Resolver} {layers shown : List Layer} {scope : Option Given}

open Layer

theorem exists_bound_of_fragment (resolved : (r.resolveForest layers scope).result = .ok shown)
    {f : Layer} (member : f ∈ preorderForest shown) (fragment : f.isFragment = true) :
    ∃ l ∈ preorderForest layers, f.id = fragmentId l.id := by
  by_contra missing
  push Not at missing
  have absent := not_made (r.fragments_once fun id _ => id = f.id)
    (fun l stored => by simpa using (missing l stored).symm) resolved f member
  simp [fragment] at absent

theorem eq_fragmentId_of_fragment (resolved : (r.resolveForest layers scope).result = .ok shown)
    {f : Layer} (member : f ∈ preorderForest shown) (fragment : f.isFragment = true) :
    f.id = fragmentId (boundId f.id) := by
  obtain ⟨l, _, named⟩ := exists_bound_of_fragment resolved member fragment
  rw [named, boundId_fragmentId]

theorem fragment_isPaged (distinct : ((preorderForest layers).map (·.id)).Nodup)
    (resolved : (r.resolveForest layers scope).result = .ok shown) {l : Layer}
    (stored : l ∈ preorderForest layers)
    {n : Layer} (member : n ∈ preorderForest shown) (stands : n.standsFor l.id = true) :
    n.pagination.isSome = l.isPaged := by
  simp only [standsFor, Bool.and_eq_true, decide_eq_true_eq] at stands
  by_contra differs
  have absent :=
    not_made (r.fragments_once fun id paged => id = fragmentId l.id && paged != l.isPaged) ?_
      resolved n member
  · have named := eq_fragmentId_of_fragment resolved member stands.1
    rw [stands.2] at named
    simp [stands.1, named, differs] at absent
  · intro m other
    by_cases same : m.id = l.id
    · simp [List.inj_on_of_nodup_map distinct other stored same]
    · simp [fragmentId_inj, same]

/-- A layer that lies in no bound layer has one fragment at most. -/
theorem fragment_unique (distinct : ((preorderForest layers).map (·.id)).Nodup)
    (resolved : (r.resolveForest layers scope).result = .ok shown) {layerId : String}
    (free : layerId ∉ (held layers).map (·.id)) :
    (preorderForest shown).countP (standsFor layerId) ≤ 1 := by
  have barren : ∀ n ∈ held layers, decide (fragmentId n.id = fragmentId layerId) = false := by
    intro n within
    have other : n.id ≠ layerId := fun same => free (List.mem_map.mpr ⟨n, within, same⟩)
    simpa [fragmentId_inj] using other
  -- There is one layer of the id, and it is expanded once, as it lies in nothing that is repeated.
  calc (preorderForest shown).countP (standsFor layerId)
      ≤ countOf (fun o => o.isFragment && decide (o.id = fragmentId layerId)) shown := by
        refine List.countP_mono_left fun n member stands => ?_
        simp only [standsFor, Bool.and_eq_true, decide_eq_true_eq] at stands
        have named := eq_fragmentId_of_fragment resolved member stands.1
        rw [stands.2] at named
        simp [stands.1, named]
    _ ≤ countOf (fun e => decide (fragmentId e.id = fragmentId layerId)) layers :=
        resolveForest_countOf_le (r.fragments_once fun id _ => id = fragmentId layerId) layers
          barren resolved
    _ = ((preorderForest layers).map (·.id)).count layerId := by
        simp [countOf, fragmentId_inj, List.count, List.countP_map, Function.comp_def,
          beq_eq_decide]
    _ ≤ 1 := List.nodup_iff_count_le_one.mp distinct layerId

end Resolver

theorem lastFragment?_spec {layerId : String} {layers : List Layer} {last : Layer}
    (found : lastFragment? layerId layers = some last) :
    last ∈ Layer.preorderForest layers ∧ last.standsFor layerId = true :=
  ⟨List.mem_reverse.mp (List.mem_of_find?_eq_some found), List.find?_some found⟩

open Layer

/-- Whatever is told by the id of a fragment is told of the last fragment with that id, which is the
    fragment itself where the layer that it stands for lies in no other bound layer. -/
theorem maps_tell_last_fragment (r : Resolver) (scope : Option Given) (layers shown : List Layer)
    (distinct : ((preorderForest layers).map (·.id)).Nodup)
    (resolved : (r.resolveForest layers scope).result = .ok shown) :
    ∀ f ∈ preorderForest shown, f.isFragment = true →
      ∃ last, lastFragment? (boundId f.id) shown = some last ∧ last.id = f.id ∧
        last.pagination.isSome = f.pagination.isSome ∧
        (boundId f.id ∉ (held layers).map (·.id) → last = f) ∧
        (itemCounts shown).lookup (boundId f.id) = some (last.children.length : Int) ∧
        (Pagination.collect shown).lookup (boundId f.id) = last.pagination ∧
        ∀ (c : Visibility.Condition) (op : Visibility.Operator) (values : Option Values)
        (room : Nat),
          c.source = .pageCollection → c.collectionLayerId = some (boundId f.id) →
          Visibility.Operator.ofText? c.operator = some op →
            c.eval { itemValues := values, counts := itemCounts shown, room } =
              .ok (Visibility.evalCount op last.children.length c) := by
  intro f member fragment
  have stands : f.standsFor (boundId f.id) = true := by simp [standsFor, fragment]
  obtain ⟨last, found⟩ : ∃ last, lastFragment? (boundId f.id) shown = some last := by
    rw [← Option.isSome_iff_exists, lastFragment?, List.find?_isSome]
    exact ⟨f, List.mem_reverse.mpr member, stands⟩
  obtain ⟨isShown, lastStands⟩ := lastFragment?_spec found
  obtain ⟨l, stored, named⟩ := Resolver.exists_bound_of_fragment resolved member fragment
  have ofLayer : boundId f.id = l.id := by rw [named, boundId_fragmentId]
  have counted : (itemCounts shown).lookup (boundId f.id) = some (last.children.length : Int) := by
    rw [lookup_itemCounts, found, Option.map_some]
  have paged : ∀ n ∈ preorderForest shown, n.standsFor (boundId f.id) = true →
      n.pagination.isSome = l.isPaged := by
    rw [ofLayer]
    exact fun n isNode stands => Resolver.fragment_isPaged distinct resolved stored isNode stands
  refine ⟨last, found, ?_, ?_, ?_, counted, ?_, ?_⟩
  · simp only [standsFor, Bool.and_eq_true, decide_eq_true_eq] at lastStands
    rw [Resolver.eq_fragmentId_of_fragment resolved isShown lastStands.1, lastStands.2,
      ← Resolver.eq_fragmentId_of_fragment resolved member fragment]
  · rw [paged last isShown lastStands, paged f member stands]
  · intro free
    exact eq_of_countP_le_one (Resolver.fragment_unique distinct resolved free) isShown lastStands
      member stands
  · rw [lookup_collect paged, found, Option.bind_some]
  · intro c op values room source layer known
    simp [Visibility.Condition.eval, known, source, Visibility.Condition.layerCount, layer, counted]

def albums : Repository :=
  (({} : Repository).add "albums" [{ id := "tracks", type := .multiReference }]
    [{ id := "a1", collectionId := "albums", values := [("tracks", "[]")] },
      { id := "a2", collectionId := "albums", values := [("tracks", "[\"t1\", \"t2\"]")] }]
        none).add
    "tracks" [] [{ id := "t1", collectionId := "tracks" }, { id := "t2", collectionId := "tracks" }]
      none

theorem albums_source : albums.source = albums.plainSource := by
  refine Repository.source_eq_plainSource ?_
  intro v
  cases v <;> decide

def trackList : Layer where
  id := "tracks"
  bindings := {
    collection := some
      { id := "tracks", sourceFieldId := some "tracks", pagination :=
        some { enabled := true, itemsPerPage := some 5 } } }

def noTracks : Layer where
  id := "none"
  bindings := {
    visibility := some { groups := [{ conditions := [
      { source := .pageCollection, collectionLayerId := some "tracks", operator := "has_no_items" }]
        }] } }

def albumList : Layer where
  id := "albums"
  bindings := { collection := some { id := "albums" } }
  children := [trackList, noTracks]

def emptyList : Layer where
  toElement := Resolver.fragmentElement trackList.toElement (some
    { layerId := "tracks", collectionId := "tracks", currentPage := 1, totalPages := 0,
      totalItems := 0, itemsPerPage := 5 })

def albumTree : List Layer :=
  (Resolver.resolveForest { source := albums.plainSource } [albumList] none).result.toOption.getD []

theorem resolved_albumTree :
    (Resolver.resolveForest { source := albums.source } [albumList] none).result =
      .ok albumTree := by
  rw [albums_source]
  decide +kernel

theorem empty_list_is_told_otherwise :
    ((preorderForest [albumList]).map (·.id)).Nodup ∧
    (∀ l ∈ preorderForest [albumList], l.isFragment = false) ∧
      (Resolver.resolveForest { source := albums.source } [albumList] none).result = .ok albumTree ∧
      emptyList ∈ preorderForest albumTree ∧ emptyList.isFragment = true ∧
      emptyList.children.length = 0 ∧
      (itemCounts albumTree).lookup (boundId emptyList.id) = some 2 ∧
      emptyList.pagination.isSome = true ∧
      (Pagination.collect albumTree).lookup (boundId emptyList.id) ≠ emptyList.pagination ∧
      (visibleForest Visibility.Expression.eval (itemCounts albumTree) albumTree none).toOption.map
        (·.hidden) =
        some ["none", "none"] :=
  ⟨by decide, by decide, resolved_albumTree, by decide +kernel⟩

theorem empty_list_is_told_of_last_list :
    ∃ last, lastFragment? "tracks" albumTree = some last ∧ last.children.length = 2 ∧
      (itemCounts albumTree).lookup "tracks" = some (last.children.length : Int) ∧
      (Pagination.collect albumTree).lookup "tracks" = last.pagination := by
  obtain ⟨last, found, _, _, _, counted, told, _⟩ :=
    maps_tell_last_fragment { source := albums.source } none [albumList]
    albumTree (by decide) resolved_albumTree emptyList (by decide +kernel) (by decide)
  have named : boundId emptyList.id = "tracks" := by decide
  rw [named] at found counted told
  refine ⟨last, found, ?_, counted, told⟩
  have two : (itemCounts albumTree).lookup "tracks" = some 2 := by decide +kernel
  rw [two, Option.some.injEq] at counted
  exact_mod_cast counted.symm

end PageLayers
