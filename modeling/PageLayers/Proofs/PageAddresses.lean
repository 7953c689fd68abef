import PageLayers.Proofs.Addresses
import PageLayers.Proofs.Fragments
import PageLayers.Proofs.PagePasses
import PageLayers.Proofs.VisibleLineages

/-!
Addresses in a resolved page. The passes around the resolution of bindings neither make nor name
nodes: injection and pagination change other fields only, and the filter drops nodes. So no two
nodes of a page have one address.
-/

namespace PageLayers

def Lineage.address? : Lineage → Option Address
  | [] => none
  | e :: around => some ⟨e.id, around.flatMap fun o => o.itemId.toList⟩

namespace Layer

mutual
theorem lineages_addresses (around : Lineage) : ∀ l : Layer,
    (lineages around l).filterMap Lineage.address? =
      addresses (around.flatMap fun o => o.itemId.toList) l
  | ⟨e, children⟩ => by
    have below := forestLineages_addresses (e :: around) children
    rw [List.flatMap_cons] at below
    rw [lineages, addresses, ← below]
    rfl

theorem forestLineages_addresses (around : Lineage) : ∀ ls : List Layer,
    (forestLineages around ls).filterMap Lineage.address? =
      forestAddresses (around.flatMap fun o => o.itemId.toList) ls
  | [] => rfl
  | l :: ls => by
    rw [forestLineages, forestAddresses, List.filterMap_append, lineages_addresses around l,
      forestLineages_addresses around ls]
end

section patch
open Pagination

theorem patchElement_keeps (m : Meta) (e : Element) :
    (patchElement m e).id = e.id ∧ (patchElement m e).itemId = e.itemId := by
  by_cases info : endsIn infoSuffix e.id = true <;> by_cases button : isButton e.id = true <;>
    simp [patchElement, info, button]

mutual
theorem patch_addresses (m : Meta) (around : List String) : ∀ l :
    Layer, addresses around (patch m l) = addresses around l
  | ⟨e, children⟩ => by
    obtain ⟨id, itemId⟩ := patchElement_keeps m e
    rw [patch, addresses, addresses, id, itemId, patchForest_addresses m _ children]

theorem patchForest_addresses (m : Meta) (around : List String) :
    ∀ ls : List Layer, forestAddresses around (patchForest m ls) = forestAddresses around ls
  | [] => rfl
  | l :: ls => by
    rw [patchForest, forestAddresses, forestAddresses, patch_addresses m around l,
      patchForest_addresses m around ls]
end

variable {states : Entries Meta}

mutual
theorem patchMarked_addresses (around : List String) : ∀ (l : Layer) {d : Layer},
    patchMarked states l = .ok d →
    addresses around d = addresses around l
  | ⟨e, children⟩, d => by
    intro patched
    simp only [patchMarked, exceptBind_ok_iff] at patched
    obtain ⟨target, _, put⟩ := patched
    cases target with
    | some m =>
      simp only [exceptPure_ok_iff] at put
      rw [← put, patch_addresses]
    | none =>
      simp only [exceptBind_ok_iff, exceptPure_ok_iff] at put
      obtain ⟨ds, below, rfl⟩ := put
      rw [addresses, addresses, patchMarkedForest_addresses _ children below]

theorem patchMarkedForest_addresses (around : List String) : ∀ (ls : List Layer) {ds : List Layer},
    patchMarkedForest states ls = .ok ds → forestAddresses around ds = forestAddresses around ls
  | [], ds => by
    intro patched
    simp only [patchMarkedForest, Except.ok.injEq] at patched
    rw [← patched]
  | l :: ls, ds => by
    intro patched
    simp only [patchMarkedForest, exceptBind_ok_iff, exceptPure_ok_iff] at patched
    obtain ⟨d, first, rest, others, rfl⟩ := patched
    rw [forestAddresses, forestAddresses, patchMarked_addresses around l first,
      patchMarkedForest_addresses around ls others]
end

theorem paginated_addresses {layers ds : List Layer}
    (paginated : Pagination.apply states layers = .ok ds)
    (around : List String) : forestAddresses around ds = forestAddresses around layers := by
  unfold Pagination.apply at paginated
  split at paginated
  · rw [Except.ok.injEq] at paginated
    rw [paginated]
  · exact patchMarkedForest_addresses around layers paginated

end patch

section fill
variable {filler : Filler} {α : Type} {f : Element → α}

mutual
theorem fill_map (ignores : IgnoresSlots f) : ∀ (l : Layer) {d : Layer}, fill filler l = .ok d →
    ((preorder d).map fun n => f n.toElement) = (preorder l).map (fun n => f n.toElement) ∧
      ((held [d]).map fun n => f n.toElement) = (held [l]).map (fun n => f n.toElement)
  | ⟨e, children⟩, d => by
    intro fills
    cases own : e.hasOwnScope with
    | true =>
      rw [fill_own own, Except.ok.injEq] at fills
      rw [fills]
      exact ⟨rfl, rfl⟩
    | false =>
      obtain ⟨o, ds, first, rest, rfl⟩ := (fill_ok_iff own).mp fills
      have same := (Element.fill_ok_iff.mp first).2
      obtain ⟨nodes, heldNodes⟩ := fillForest_map ignores children rest
      have free : e.isBound = false := by
        rw [Element.hasOwnScope, Bool.or_eq_false_iff] at own
        exact own.1
      have free' : o.isBound = false := by rw [Element.isBound, same.binding?]; exact free
      constructor
      · rw [preorder, preorder, List.map_cons, List.map_cons, nodes, ignores e o same]
      · rw [held_singleton, held_singleton, free, free']
        exact heldNodes

theorem fillForest_map (ignores : IgnoresSlots f) : ∀ (ls : List Layer) {ds : List Layer},
    fillForest filler ls = .ok ds →
      ((preorderForest ds).map fun n => f n.toElement) = (preorderForest ls).map
        (fun n => f n.toElement) ∧
        ((held ds).map fun n => f n.toElement) = (held ls).map (fun n => f n.toElement)
  | [], ds => by
    intro fills
    simp only [fillForest, Except.ok.injEq] at fills
    subst fills
    exact ⟨rfl, rfl⟩
  | l :: ls, ds => by
    intro fills
    obtain ⟨d, rest, first, others, rfl⟩ := fillForest_cons_ok_iff.mp fills
    obtain ⟨nodes, heldNodes⟩ := fill_map ignores l first
    obtain ⟨nodes', heldNodes'⟩ := fillForest_map ignores ls others
    constructor
    · rw [preorderForest, preorderForest, List.map_append, List.map_append, nodes, nodes']
    · rw [held_cons, held_cons l, List.map_append, List.map_append, heldNodes, heldNodes']
end

end fill
end Layer

open Layer

theorem Element.makes_ignoresSlots : IgnoresSlots Element.makes := by
  intro e o same
  funext id
  rw [makes, makes, same.id, Element.isBound, Element.isBound, same.binding?]

theorem injectPageItem_map {α : Type} {f : Element → α} (ignores : IgnoresSlots f)
    {values : Option Values}
    {layers tree : List Layer} (injected : injectPageItem values layers = .ok tree) :
    ((preorderForest tree).map fun n => f n.toElement) = (preorderForest layers).map
      (fun n => f n.toElement) ∧
      ((held tree).map fun n => f n.toElement) = (held layers).map (fun n => f n.toElement) := by
  cases values with
  | none =>
    rw [injectPageItem, Except.ok.injEq] at injected
    subst injected
    exact ⟨rfl, rfl⟩
  | some values => exact fillForest_map ignores layers (fillFittingForest_eq_ok_iff.mp injected).1

theorem Page.finish_addresses {p : Page} {r : Resolver} {values : Option Values}
    {resolved : List Layer}
    {page : ResolvedPage} (finished : p.finish r values resolved = .ok page) :
    (forestAddresses [] page.layers).Sublist (forestAddresses [] resolved) := by
  obtain ⟨seen, layers, filtered, _, paginated, rfl⟩ := finish_ok_iff.mp finished
  rw [paginated_addresses paginated]
  have left := (visibleForestIn_sublist [] resolved filtered).filterMap Lineage.address?
  rwa [forestLineages_addresses, forestLineages_addresses] at left

theorem countP_le_one_of_pairwise {α : Type} {p : α → Bool} {xs : List α}
    (apart : xs.Pairwise fun x y => p x = true → p y = false) : xs.countP p ≤ 1 := by
  induction xs with
  | nil => simp
  | cons x xs ih =>
    rw [List.pairwise_cons] at apart
    rw [List.countP_cons]
    by_cases here : p x = true
    · have none : xs.countP p = 0 := by
        rw [List.countP_eq_zero]
        intro y member
        simp [apart.1 y member here]
      simp [here, none]
    · simpa [here] using ih apart.2

theorem Layer.IdsApart.of_map {layers tree : List Layer}
    (same : ((preorderForest tree).map fun n => n.makes) = (preorderForest layers).map fun n =>
      n.makes)
    (apart : IdsApart layers) : IdsApart tree := by
  rw [IdsApart] at apart ⊢
  rw [same]
  exact apart

theorem Layer.IdsApart.countOf_le {layers : List Layer} (apart : IdsApart layers) (id : String) :
    countOf (fun e => e.makes id) layers ≤ 1 := by
  rw [IdsApart, List.pairwise_map] at apart
  exact countP_le_one_of_pairwise (apart.imp fun differ => differ id)

theorem Layer.IdsApart.eq_of_makes {layers : List Layer} (apart : IdsApart layers) {m n : Layer}
    (first : m ∈ preorderForest layers) (second : n ∈ preorderForest layers) {id : String}
    (made : m.makes id = true) (made' : n.makes id = true) : m = n :=
  eq_of_countP_le_one (apart.countOf_le id) first made second made'

theorem Resolver.ShowsOnce.count_le_one {r : Resolver} (once : r.ShowsOnce)
    {layers shown : List Layer} {scope : Option Given} (apart : IdsApart layers) {id : String}
    (free : ∀ n ∈ held layers, n.makes id = false)
    (resolved : (r.resolveForest layers scope).result = .ok shown) :
    ((preorderForest shown).map (·.id)).count id ≤ 1 :=
  calc ((preorderForest shown).map (·.id)).count id
      = countOf (fun o => decide (o.id = id)) shown := by
        rw [List.count, List.countP_map]
        rfl
    _ ≤ countOf (fun e => e.makes id) layers :=
      resolveForest_countOf_le (once.makesOnce id) layers free resolved
    _ ≤ 1 := apart.countOf_le id

/-- No two nodes of a resolved page have one address. An id that is made of a layer in no bound one
    occurs once at most, so that ids are unique where bound layers hold no others. -/
theorem addresses_are_unique (p : Page) (r : Resolver) (once : r.ShowsOnce) {stored : List Layer}
    {page : ResolvedPage} (expands : Component.expand p.components p.layers = .ok stored)
    (distinct : ((preorderForest stored).map (·.id)).Nodup) (unextended : Unextended stored)
    (resolves : (p.resolve r).result = .ok page) :
    (forestAddresses [] page.layers).Nodup ∧
      (∀ l ∈ preorderForest stored, l.id ∉ (held stored).map (·.id) → ∀ id, l.makes id = true →
        ((preorderForest page.layers).map (·.id)).count id ≤ 1) ∧
      (held stored = [] → ((preorderForest page.layers).map (·.id)).Nodup) := by
  obtain ⟨values, resolved, ⟨expanded, tree, expands', _, injected, done⟩, finished⟩ :=
    Page.resolve_ok_iff.mp resolves
  obtain rfl : stored = expanded := Except.ok.inj (expands.symm.trans expands')
  have apart := idsApart_of_unextended distinct unextended
  obtain ⟨nodes, heldNodes⟩ := injectPageItem_map Element.makes_ignoresSlots injected
  have apartTree := apart.of_map nodes
  have left := p.finish_addresses finished
  have ids :
      ((preorderForest page.layers).map (·.id)).Sublist ((preorderForest resolved).map (·.id)) := by
    rw [← forestAddresses_ids [], ← forestAddresses_ids []]
    exact left.map _
  have single : ∀ id, (∀ n ∈ held tree, n.makes id = false) →
    ((preorderForest page.layers).map (·.id)).count id ≤ 1 :=
    fun id free => (ids.count_le id).trans (once.count_le_one apartTree free done)
  refine ⟨(Resolver.resolveForest_addresses_nodup once tree [] apartTree done).sublist left, ?_, ?_⟩
  · intro l isStored free id made
    refine single id fun n within => ?_
    -- Injection changes no ids, so the node stands for a stored layer, which is another one than
    -- the given.
    obtain ⟨m, isHeld, same⟩ := List.mem_map.mp (heldNodes ▸ List.mem_map_of_mem within)
    by_contra also
    rw [Bool.not_eq_false, ← same] at also
    have equal := apart.eq_of_makes isStored (mem_preorderForest_of_held isHeld) made also
    exact free (equal ▸ List.mem_map_of_mem isHeld)
  · intro unheld
    have none : held tree = [] := by simpa [unheld] using heldNodes
    rw [List.nodup_iff_count_le_one]
    intro id
    exact single id (by simp [none])

def albumPage : ResolvedPage :=
  (Page.resolve { layers := [albumList] } { source := albums.plainSource }).result.toOption.getD {}

theorem resolved_albumPage :
    (Page.resolve { layers := [albumList] } { source := albums.source }).result =
      .ok albumPage := by
  rw [albums_source]
  decide +kernel

/-- Each album has a list of tracks, and both lists have the same id. -/
theorem track_lists_share_id :
    ((preorderForest [albumList]).map (·.id)).Nodup ∧
    (∀ l ∈ preorderForest [albumList], l.isFragment = false) ∧
      (Page.resolve { layers := [albumList] } { source := albums.source }).result = .ok albumPage ∧
      ((preorderForest albumPage.layers).map (·.id)) =
        ["albums-fragment", "albums-item-a1", "tracks-fragment",
        "albums-item-a2", "tracks-fragment", "tracks-item-t1", "tracks-item-t2"] :=
  ⟨by decide, by decide, resolved_albumPage, by decide +kernel⟩

theorem album_addresses_are_unique :
    (forestAddresses [] albumPage.layers).Nodup ∧
      ((preorderForest albumPage.layers).map (·.id)).count "albums-fragment" ≤ 1 := by
  have keyed : albums.Keyed :=
    Repository.keyed_add (Repository.keyed_add Repository.keyed_empty _ _ _ _) _ _ _ _
  have once : Resolver.ShowsOnce { source := albums.source } :=
    ⟨keyed.answersOnce, fun _ => List.Perm.refl _⟩
  obtain ⟨told, single, _⟩ :=
    addresses_are_unique { layers := [albumList] } { source := albums.source } once
    (show Component.expand [] [albumList] = .ok [albumList] by decide +kernel) (by decide)
      (by decide) resolved_albumPage
  exact ⟨told, single albumList (by decide) (by decide) "albums-fragment" (by decide)⟩

end PageLayers
