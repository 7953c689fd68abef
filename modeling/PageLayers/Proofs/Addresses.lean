import PageLayers.Page
import PageLayers.Proofs.Ids

/-!
How nodes of a resolved page are told apart. A clone repeats the layers within it, whose ids are not
changed, so ids repeat as soon as a binding shows two items. An id and the items of the clones
around it are an address, and no two nodes have the same one. An id that is made of a layer outside
all bound ones occurs once.
-/

namespace PageLayers

/-- The id of a node, and the ids of the items that are stamped on those around it, the innermost
    first. -/
structure Address where
  id : String
  around : List String
  deriving DecidableEq, Repr

namespace Layer

mutual
def addresses : List String → Layer → List Address
  | around, ⟨e, children⟩ => ⟨e.id, around⟩ :: forestAddresses (e.itemId.toList ++ around) children

def forestAddresses : List String → List Layer → List Address
  | _, [] => []
  | around, l :: ls => addresses around l ++ forestAddresses around ls
end

mutual
theorem addresses_ids (around : List String) : ∀ l :
    Layer, (addresses around l).map (·.id) = (preorder l).map (·.id)
  | ⟨e, children⟩ => by
    rw [addresses, preorder, List.map_cons, List.map_cons, forestAddresses_ids]

theorem forestAddresses_ids (around : List String) :
    ∀ ls : List Layer, (forestAddresses around ls).map (·.id) = (preorderForest ls).map (·.id)
  | [] => rfl
  | l :: ls => by
    rw [forestAddresses, preorderForest, List.map_append, List.map_append, addresses_ids around l,
      forestAddresses_ids around ls]
end

mutual
theorem suffix_of_mem_addresses {a : Address} {around : List String} : ∀ l :
    Layer, a ∈ addresses around l →
    around <:+ a.around
  | ⟨e, children⟩ => by
    intro member
    rcases List.mem_cons.mp member with rfl | below
    · exact List.suffix_rfl
    · exact (List.suffix_append _ _).trans (suffix_of_mem_forestAddresses children below)

theorem suffix_of_mem_forestAddresses {a : Address} {around : List String} : ∀ ls : List Layer,
    a ∈ forestAddresses around ls → around <:+ a.around
  | [] => by simp [forestAddresses]
  | l :: ls => by
    intro member
    rcases List.mem_append.mp member with first | later
    · exact suffix_of_mem_addresses l first
    · exact suffix_of_mem_forestAddresses ls later
end

section fill
variable {filler : Filler}

mutual
theorem fill_addresses (around : List String) : ∀ (l : Layer) {d : Layer}, fill filler l = .ok d →
    addresses around d = addresses around l
  | ⟨e, children⟩, d => by
    intro fills
    cases own : e.hasOwnScope with
    | true =>
      rw [fill_own own, Except.ok.injEq] at fills
      rw [fills]
    | false =>
      obtain ⟨o, ds, first, rest, rfl⟩ := (fill_ok_iff own).mp fills
      have same := (Element.fill_ok_iff.mp first).2
      rw [addresses, addresses, same.id, show o.itemId = e.itemId from congrArg (·.itemId) same,
        fillForest_addresses _ children rest]

theorem fillForest_addresses (around : List String) : ∀ (ls : List Layer) {ds : List Layer},
    fillForest filler ls = .ok ds → forestAddresses around ds = forestAddresses around ls
  | [], ds => by
    intro fills
    simp only [fillForest, Except.ok.injEq] at fills
    rw [← fills]
  | l :: ls, ds => by
    intro fills
    obtain ⟨d, rest, first, others, rfl⟩ := fillForest_cons_ok_iff.mp fills
    rw [forestAddresses, forestAddresses, fill_addresses around l first,
      fillForest_addresses around ls others]
end

end fill

theorem idsApart_singleton {e : Element} {children : List Layer} : IdsApart [⟨e, children⟩] ↔
    (∀ n ∈ preorderForest children, ∀ id, e.makes id = true → n.makes id = false) ∧
    IdsApart children := by
  simp [IdsApart, preorderForest, preorder]

theorem idsApart_cons {l : Layer} {ls : List Layer} : IdsApart (l :: ls) ↔ IdsApart [l] ∧
    IdsApart ls ∧
    ∀ m ∈ preorder l, ∀ n ∈ preorderForest ls, ∀ id, m.makes id = true → n.makes id = false := by
  simp [IdsApart, preorderForest, List.pairwise_append]

end Layer

namespace Resolver
variable {r : Resolver}

open Layer

theorem resolveForest_singleton {l d : Layer} {scope : Option Given}
    (resolved : (r.resolveLayer l scope).result = .ok d) :
    (r.resolveForest [l] scope).result = .ok [d] := by
  simp only [resolveForest]
  exact Outcome.map_ok_iff.mpr ⟨(d, []), Outcome.both_ok_iff.mpr ⟨resolved, rfl⟩, rfl⟩

theorem ShowsOnce.exists_made (once : r.ShowsOnce) {layers shown : List Layer}
    {scope : Option Given}
    (resolved : (r.resolveForest layers scope).result = .ok shown) {around : List String}
    {a : Address} (member : a ∈ forestAddresses around shown) : ∃ l ∈ preorderForest layers,
      l.makes a.id = true := by
  by_contra missing
  push Not at missing
  have ids : a.id ∈ (preorderForest shown).map (·.id) :=
    forestAddresses_ids around shown ▸ List.mem_map_of_mem member
  obtain ⟨n, isNode, same⟩ := List.mem_map.mp ids
  have absent := not_made (once.makesOnce a.id) (fun l stored => by simpa using missing l stored)
    resolved n isNode
  simp [same] at absent

/-- The children of a layer, however they are resolved, are told apart by addresses, and their ids
    are made of what is stored. -/
def ToldApart (inner : Option Given → Outcome (List Layer)) (children : List Layer) : Prop :=
  ∀ around scope ds, (inner scope).result = .ok ds →
    (forestAddresses around ds).Nodup ∧ ∀ a ∈ forestAddresses around ds,
      ∃ n ∈ preorderForest children, n.makes a.id = true

section clones
variable {e : Element} {children : List Layer} {inner : Option Given → Outcome (List Layer)}

theorem clone_addresses_nodup
    (apart : ∀ n ∈ preorderForest children, ∀ id, e.makes id = true → n.makes id = false)
    (bound : e.isBound = true)
    (below : ToldApart inner children) (around : List String) {item : Item} {clone : Layer}
    (cloned : ClonesTo e inner item clone) :
    (addresses around clone).Nodup ∧ ∀ a ∈ addresses around clone,
      a.id = cloneId e.id item.id ∨ (∃ n ∈ preorderForest children, n.makes a.id = true) ∧
      item.id :: around <:+ a.around := by
  obtain ⟨slug, values, ds, resolved, same, filled⟩ := cloned
  obtain ⟨o, cs⟩ := clone
  have named : o.id = cloneId e.id item.id := same.id
  have stamped : o.itemId = some item.id := congrArg (·.itemId) same
  obtain ⟨distinct, made⟩ := below (item.id :: around) _ ds resolved
  rw [← fillForest_addresses _ ds filled] at distinct made
  rw [addresses, stamped]
  change (_ :: forestAddresses (item.id :: around) cs).Nodup ∧
    ∀ a ∈ _ :: forestAddresses (item.id :: around) cs, _
  constructor
  · rw [List.nodup_cons]
    refine ⟨?_, distinct⟩
    intro again
    obtain ⟨n, stored, makes⟩ := made _ again
    have free := apart n stored _ (Element.makes_cloneId bound item.id)
    simp only [named] at makes
    simp [makes] at free
  · intro a member
    rcases List.mem_cons.mp member with rfl | inside
    · exact .inl named
    · exact .inr ⟨made a inside, suffix_of_mem_forestAddresses cs inside⟩

theorem clones_addresses_nodup
    (apart : ∀ n ∈ preorderForest children, ∀ id, e.makes id = true → n.makes id = false)
    (bound : e.isBound = true)
    (below : ToldApart inner children) (around : List String) {items : List Item}
    {clones : List Layer}
    (cloned : List.Forall₂ (ClonesTo e inner) items clones) (once : (items.map (·.id)).Nodup) :
    (forestAddresses around clones).Nodup ∧ ∀ a ∈ forestAddresses around clones, ∃ item ∈ items,
      a.id = cloneId e.id item.id ∨ (∃ n ∈ preorderForest children, n.makes a.id = true) ∧
      item.id :: around <:+ a.around := by
  induction cloned with
  | nil => simp [forestAddresses]
  | cons first _ ih =>
    rename_i item clone items clones _
    rw [List.map_cons, List.nodup_cons] at once
    obtain ⟨here, told⟩ := clone_addresses_nodup apart bound below around first
    obtain ⟨others, toldOthers⟩ := ih once.2
    rw [forestAddresses]
    constructor
    · rw [List.nodup_append']
      refine ⟨here, others, ?_⟩
      intro a inFirst inOthers
      obtain ⟨item', member, also⟩ := toldOthers a inOthers
      have differ : item.id ≠ item'.id := fun same => once.1 (same ▸ List.mem_map_of_mem member)
      -- The id of a clone is made of no child, and two nodes within clones have different items
      -- around them.
      rcases told a inFirst with own | ⟨⟨n, stored, made⟩, within⟩ <;>
        rcases also with own' | ⟨⟨n', stored', made'⟩, within'⟩
      · exact differ (cloneId_inj.mp (own.symm.trans own'))
      · have free := apart n' stored' _ (Element.makes_cloneId bound item.id)
        rw [own] at made'
        simp [made'] at free
      · have free := apart n stored _ (Element.makes_cloneId bound item'.id)
        rw [own'] at made
        simp [made] at free
      · have same :=
          (List.suffix_of_suffix_length_le within within' (Nat.le_refl _)).eq_of_length rfl
        exact differ (List.cons.inj same).1
    · intro a member
      rcases List.mem_append.mp member with inFirst | inOthers
      · exact ⟨item, List.mem_cons_self, told a inFirst⟩
      · obtain ⟨item', isItem, placed⟩ := toldOthers a inOthers
        exact ⟨item', List.mem_cons_of_mem _ isItem, placed⟩

theorem Becomes.addresses_nodup (once : r.ShowsOnce)
    (apart : ∀ n ∈ preorderForest children, ∀ id, e.makes id = true → n.makes id = false)
    (below : ToldApart inner children) (around : List String) {scope : Option Given} {d : Layer}
    (becomes : r.Becomes e inner scope d) : (addresses around d).Nodup := by
  cases becomes with
  | kept ds resolved =>
    obtain ⟨distinct, made⟩ := below (e.itemId.toList ++ around) scope ds resolved
    rw [addresses, List.nodup_cons]
    refine ⟨?_, distinct⟩
    intro again
    obtain ⟨n, stored, makes⟩ := made _ again
    simp [apart n stored _ e.makes_id] at makes
  | expanded s selection clones binding selected cloned =>
    have bound : e.isBound = true := by rw [Element.isBound, binding]; rfl
    obtain ⟨distinct, told⟩ :=
      clones_addresses_nodup apart bound below (e.itemId.toList ++ around) cloned
      (once.select_nodup selected)
    rw [addresses, List.nodup_cons]
    refine ⟨?_, distinct⟩
    intro again
    obtain ⟨item, _, own | ⟨⟨n, stored, made⟩, _⟩⟩ := told _ again
    · exact fragmentId_ne_own_cloneId e.id item.id own
    · have free := apart n stored _ (Element.makes_fragmentId bound)
      simp only [fragmentElement] at made
      simp [made] at free

end clones

mutual
theorem resolveLayer_addresses_nodup (once : r.ShowsOnce) : ∀ (l : Layer) (around : List String)
    {scope : Option Given}
    {d : Layer}, IdsApart [l] → (r.resolveLayer l scope).result = .ok d → (addresses around d).Nodup
  | ⟨e, children⟩, around, scope, d => by
    intro apart resolved
    obtain ⟨here, inside⟩ := idsApart_singleton.mp apart
    obtain ⟨_, becomes⟩ := becomes_of_resolved resolved
    refine becomes.addresses_nodup once here ?_ around
    intro around scope ds done
    exact ⟨resolveForest_addresses_nodup once children around inside done, fun a member =>
      once.exists_made done member⟩

theorem resolveForest_addresses_nodup (once : r.ShowsOnce) : ∀ (ls : List Layer)
    (around : List String)
    {scope : Option Given} {ds : List Layer}, IdsApart ls → (r.resolveForest ls scope).result =
      .ok ds →
      (forestAddresses around ds).Nodup
  | [], around, scope, ds => by
    intro _ resolved
    simp only [resolveForest, Outcome.result_pure, Except.ok.injEq] at resolved
    subst resolved
    exact List.nodup_nil
  | l :: ls, around, scope, ds => by
    intro apart resolved
    obtain ⟨here, others, between⟩ := idsApart_cons.mp apart
    simp only [resolveForest] at resolved
    obtain ⟨⟨d, rest⟩, done, rfl⟩ := Outcome.map_ok_iff.mp resolved
    obtain ⟨first, later⟩ := Outcome.both_ok_iff.mp done
    rw [forestAddresses, List.nodup_append']
    refine ⟨resolveLayer_addresses_nodup once l around here first,
      resolveForest_addresses_nodup once ls around others later, ?_⟩
    intro a inFirst inRest
    have single : a ∈ forestAddresses around [d] := by simpa [forestAddresses] using inFirst
    obtain ⟨m, isFirst, made⟩ := once.exists_made (resolveForest_singleton first) single
    obtain ⟨n, isLater, made'⟩ := once.exists_made later inRest
    have stored : m ∈ preorder l := by simpa [preorderForest] using isFirst
    simp [between m stored n isLater a.id made] at made'
end

end Resolver
end PageLayers
