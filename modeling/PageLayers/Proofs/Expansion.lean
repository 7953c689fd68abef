import PageLayers.Proofs.Injection
import PageLayers.Proofs.Selection
import PageLayers.Proofs.Tree

/-!
What a tree looks like once its bindings are resolved, told apart from how they are resolved. An
unbound layer keeps its place; in the place of a bound one stands a fragment with a clone for each
item that the binding shows in the scope around it, and within a clone the item is the scope.
Resolution over collections in memory yields that tree whenever nothing that it has to read is
unreadable.
-/

namespace PageLayers
namespace Resolver

/-- The second element is the clone of the first one for an item, with the item's values put in. -/
structure ClonedAs (r : Resolver) (fields : List Field) (e : Element) (item : Item)
    (values : Values) (o : Element) : Prop where
  id : o.id = e.id ++ "-item-" ++ item.id
  itemId : o.itemId = some item.id
  itemValues : o.itemValues = some values
  enhanced : (r.enhance item.values fields).result = .ok values
  shown : (cloneElement e item (item.slug? fields r.settings.slugFieldKey) values).ShownAs
    (some values) o

mutual
/-- The second layer is the first one with its bindings expanded in a scope. Where it lies in no
    clone of its own, its slots are filled from the injected values. -/
def Expands (r : Resolver) (repo : Repository) : Option Values → Option Values → Layer →
    Layer → Prop
  | injected, scope, ⟨e, children⟩, shown =>
    e.isFragment = false ∧
      match e.binding? with
      | none =>
        e.ShownAs injected shown.toElement ∧
        ExpandsForest r repo injected scope children shown.children
      | some s =>
        ∃ allowed, s.restriction scope = .ok allowed ∧
          shown.id = e.id ++ "-fragment" ∧ shown.name = "_fragment" ∧
          shown.toElement =
            fragmentElement e ((s.fetchWindow r.settings r.request e.id).pageMeta e.id s.id
            (restrictTo allowed (repo.ordered r.variant s.id)).length) ∧
          List.Forall₂
            (fun item clone => ∃ values,
              r.ClonedAs (repo.fields s.id r.variant) e item values clone.toElement ∧
              ExpandsForest r repo (some values) (some item.values) children clone.children)
            (r.shownItems repo e.id s allowed) shown.children

def ExpandsForest (r : Resolver) (repo : Repository) : Option Values → Option Values → List Layer →
    List Layer → Prop
  | _, _, [], shown => shown = []
  | injected, scope, l :: ls, shown =>
    ∃ d rest, shown = d :: rest ∧ Expands r repo injected scope l d ∧
      ExpandsForest r repo injected scope ls rest
end

mutual
/-- The layers that a resolution comes to, each with the scope in which it does. -/
def reached (r : Resolver) (repo : Repository) : Option Values → Layer →
    List (Layer × Option Values)
  | scope, ⟨e, children⟩ =>
    (⟨e, children⟩, scope) ::
      match e.binding? with
      | none => reachedForest r repo scope children
      | some s =>
        match s.restriction scope with
        | .ok allowed =>
          (r.shownItems repo e.id s allowed).flatMap fun item =>
            reachedForest r repo (some item.values) children
        | .error _ => []

def reachedForest (r : Resolver) (repo : Repository) : Option Values → List Layer →
    List (Layer × Option Values)
  | _, [] => []
  | scope, l :: ls => reached r repo scope l ++ reachedForest r repo scope ls
end

end Resolver

def Element.unbound (e : Element) :
    Element := { e with bindings := { e.bindings with collection := none } }

/-- Nothing stands in the way of a binding in a scope: its collection is stored, the stored values
    and tokens that it comes upon can be read, and the numbers of its window can be told. -/
structure Resolver.Readable (r : Resolver) (repo : Repository) (l : Layer) (s : CollectionSource)
    (scope : Option Values) : Prop where
  stored : ((repo.collections r.variant).lookup s.id).isSome = true
  restricted : (s.restriction scope).isOk = true
  filters : ∀ allowed ∈ (s.restriction scope).toOption, r.FiltersRead repo l.id s allowed
  told : ∀ allowed ∈ (s.restriction scope).toOption,
    (s.fetchWindow r.settings r.request l.id).Told
      (restrictTo allowed (repo.ordered r.variant s.id)).length
  cloned : ∀ allowed ∈ (s.restriction scope).toOption, ∀ item ∈ r.shownItems repo l.id s allowed,
    ((r.enhance item.values (repo.fields s.id r.variant)).result >>= fun values =>
      Layer.inject values ⟨l.toElement.unbound, l.children⟩).isOk = true

def Resolver.AllReadable (r : Resolver) (repo : Repository)
    (reached : List (Layer × Option Values)) : Prop :=
  ∀ p ∈ reached, ∀ s ∈ p.1.binding?, r.Readable repo p.1 s p.2

instance (r : Resolver) (repo : Repository) (layerId : String) (s : CollectionSource)
    (allowed : Option (List String)) : Decidable (r.FiltersRead repo layerId s allowed) :=
  inferInstanceAs
    (Decidable (∀ x ∈ s.filters, x.isEmpty = false → ∀ item ∈ r.fetchedItems repo layerId s allowed,
    (r.evaluator x { itemValues := some item.values }).isOk = true))

instance (r : Resolver) (repo : Repository) (l : Layer) (s : CollectionSource)
    (scope : Option Values) : Decidable (r.Readable repo l s scope) :=
  decidable_of_iff (((repo.collections r.variant).lookup s.id).isSome = true ∧
      (s.restriction scope).isOk = true ∧
      (∀ allowed ∈ (s.restriction scope).toOption, r.FiltersRead repo l.id s allowed) ∧
      (∀ allowed ∈ (s.restriction scope).toOption,
        (s.fetchWindow r.settings r.request l.id).Told
          (restrictTo allowed (repo.ordered r.variant s.id)).length) ∧
      ∀ allowed ∈ (s.restriction scope).toOption, ∀ item ∈ r.shownItems repo l.id s allowed,
        ((r.enhance item.values (repo.fields s.id r.variant)).result >>= fun values =>
          Layer.inject values ⟨l.toElement.unbound, l.children⟩).isOk = true)
    ⟨fun ⟨stored, restricted, filters, told, cloned⟩ => ⟨stored, restricted, filters, told, cloned⟩,
      fun h => ⟨h.stored, h.restricted, h.filters, h.told, h.cloned⟩⟩

instance (r : Resolver) (repo : Repository) (reached : List (Layer × Option Values)) :
    Decidable (r.AllReadable repo reached) :=
  inferInstanceAs (Decidable (∀ p ∈ reached, ∀ s ∈ p.1.binding?, r.Readable repo p.1 s p.2))

theorem Element.fill_ok_of_bindings {filler : Filler} {e f o : Element}
    (same : f.bindings = e.bindings)
    (filled : e.fill filler = .ok o) : f.fill filler = .ok { f with bindings := o.bindings } := by
  simp only [Element.fill, exceptBind_ok_iff, exceptPure_ok_iff] at filled ⊢
  obtain ⟨w, slots, rfl⟩ := filled
  exact ⟨w, same ▸ slots, rfl⟩

theorem unbound_hasOwnScope {e : Element} (plain : e.isFragment = false) :
    e.unbound.hasOwnScope = false := by
  have bound : e.unbound.isBound = false := by
    simp [Element.isBound, Element.binding?, Element.unbound]
  have fragment : e.unbound.isFragment = false := plain
  simp [Element.hasOwnScope, bound, fragment]

namespace Resolver
variable {r : Resolver} {repo : Repository}

theorem Expands.hasOwnScope {injected scope : Option Values} {e : Element} {children : List Layer}
    {shown : Layer} (expands : r.Expands repo injected scope ⟨e, children⟩ shown) :
    shown.hasOwnScope = e.hasOwnScope := by
  obtain ⟨plain, expands⟩ := expands
  cases binding : e.binding? with
  | none =>
    rw [binding] at expands
    exact expands.1.rest.hasOwnScope
  | some s =>
    rw [binding] at expands
    obtain ⟨_, _, _, name, _⟩ := expands
    have own : shown.isFragment = true := by simp [Element.isFragment, fragmentName, name]
    simp [Element.hasOwnScope, Element.isBound, binding, own]

mutual
theorem fill_expands {values : Values} : ∀ (l : Layer) (scope : Option Values) {d filled : Layer},
    r.Expands repo none scope l d → Layer.fill (SlotValue.inject values) l = .ok filled →
      ∃ shown, Layer.fill (SlotValue.inject values) d = .ok shown ∧
        r.Expands repo (some values) scope l shown
  | ⟨e, children⟩, scope, ⟨o, ds⟩, filled => by
    intro expands fills
    have own := expands.hasOwnScope
    obtain ⟨plain, expands⟩ := expands
    cases binding : e.binding? with
    | some s =>
      have bound : o.hasOwnScope = true := by
        simpa [Element.hasOwnScope, Element.isBound, binding] using own
      refine ⟨⟨o, ds⟩, Layer.fill_own bound, plain, ?_⟩
      rw [binding] at expands ⊢
      exact expands
    | none =>
      have unbound : e.hasOwnScope = false := by
        simp [Element.hasOwnScope, Element.isBound, binding, plain]
      rw [binding] at expands
      obtain ⟨same, below⟩ := expands
      have eq : o = e := Element.shownAs_none_iff.mp same
      obtain ⟨u, us, first, rest, rfl⟩ := (Layer.fill_ok_iff unbound).mp fills
      obtain ⟨shown, filledBelow, expandsBelow⟩ := fillForest_expands children scope below rest
      refine ⟨⟨u, shown⟩,
        (Layer.fill_ok_iff (own.trans unbound)).mpr ⟨u, shown, eq ▸ first, filledBelow, rfl⟩,
        plain, ?_⟩
      rw [binding]
      exact ⟨Element.shownAs_some_iff.mpr first, expandsBelow⟩

theorem fillForest_expands {values : Values} : ∀ (ls : List Layer) (scope : Option Values)
    {ds filled : List Layer},
    r.ExpandsForest repo none scope ls ds → Layer.fillForest (SlotValue.inject values) ls =
      .ok filled →
      ∃ shown, Layer.fillForest (SlotValue.inject values) ds = .ok shown ∧
        r.ExpandsForest repo (some values) scope ls shown
  | [], scope, ds, filled => by
    rintro rfl fills
    exact ⟨[], rfl, rfl⟩
  | l :: ls, scope, ds, filled => by
    rintro ⟨d, rest, rfl, first, others⟩ fills
    obtain ⟨_, _, fillsFirst, fillsRest, _⟩ := Layer.fillForest_cons_ok_iff.mp fills
    obtain ⟨shown, filledFirst, expandsFirst⟩ := fill_expands l scope first fillsFirst
    obtain ⟨shownRest, filledRest, expandsRest⟩ := fillForest_expands ls scope others fillsRest
    exact ⟨shown :: shownRest,
      Layer.fillForest_cons_ok_iff.mpr ⟨shown, shownRest, filledFirst, filledRest, rfl⟩,
      shown, shownRest, rfl, expandsFirst, expandsRest⟩
end

mutual
theorem tokensFit_expands : ∀ (l : Layer) (room : Nat) {scope : Option Values} {d : Layer},
    r.Expands repo none scope l d → Layer.tokensFit room l = true → Layer.tokensFit room d = true
  | ⟨e, children⟩, room, scope, ⟨o, ds⟩ => by
    intro expands fit
    have own := expands.hasOwnScope
    obtain ⟨plain, expands⟩ := expands
    cases binding : e.binding? with
    | some s =>
      have bound : o.hasOwnScope = true := by
        simpa [Element.hasOwnScope, Element.isBound, binding] using own
      simp [Layer.tokensFit, bound]
    | none =>
      rw [binding] at expands
      obtain ⟨same, below⟩ := expands
      have eq : o = e := Element.shownAs_none_iff.mp same
      have unbound : e.hasOwnScope = false := by
        simp [Element.hasOwnScope, Element.isBound, binding, plain]
      simp only [Layer.tokensFit, unbound, Bool.false_or, Bool.and_eq_true] at fit
      simp only [Layer.tokensFit, eq, unbound, Bool.false_or, Bool.and_eq_true]
      exact ⟨fit.1, forestTokensFit_expands children _ below fit.2⟩

theorem forestTokensFit_expands : ∀ (ls : List Layer) (room : Nat) {scope : Option Values}
    {ds : List Layer},
    r.ExpandsForest repo none scope ls ds → Layer.forestTokensFit room ls = true →
      Layer.forestTokensFit room ds = true
  | [], room, scope, ds => by
    rintro rfl fit
    exact fit
  | l :: ls, room, scope, ds => by
    rintro ⟨d, rest, rfl, first, others⟩ fit
    simp only [Layer.forestTokensFit, Bool.and_eq_true] at fit ⊢
    exact ⟨tokensFit_expands l room first fit.1, forestTokensFit_expands ls room others fit.2⟩
end

theorem clone_expands {e : Element} {children ds : List Layer} {item : Item} {fields : List Field}
    {values : Values} {inner : Option Given → Outcome (List Layer)} (plain : e.isFragment = false)
    (resolved : (inner (some (.ofValues item.values))).result = .ok ds)
    (expands : r.ExpandsForest repo none (some item.values) children ds)
    (enhanced : (r.enhance item.values fields).result = .ok values)
    (injectable : (Layer.inject values ⟨e.unbound, children⟩).isOk = true) :
    ∃ clone, (r.clone e inner fields item).result = .ok clone ∧
      r.ClonedAs fields e item values clone.toElement ∧
      r.ExpandsForest repo (some values) (some item.values) children clone.children := by
  obtain ⟨_, injected⟩ := isOk_iff.mp injectable
  obtain ⟨fills, fit⟩ := Layer.inject_ok_iff.mp injected
  have unbound := unbound_hasOwnScope plain
  obtain ⟨o, _, first, rest, _⟩ := (Layer.fill_ok_iff unbound).mp fills
  let element := cloneElement e item (item.slug? fields r.settings.slugFieldKey) values
  have own : element.hasOwnScope = false := unbound
  have slots : element.bindings = e.unbound.bindings := rfl
  have filled : element.fill (SlotValue.inject values) =
    .ok { element with bindings := o.bindings } :=
    Element.fill_ok_of_bindings slots first
  -- What can be injected into the stored children can be injected into the resolved ones.
  obtain ⟨shown, filledBelow, expandsBelow⟩ := fillForest_expands children _ expands rest
  have fitsBelow : Layer.tokensFit Layer.tokenRoom ⟨element, ds⟩ = true := by
    simp only [Layer.tokensFit, unbound, own, Bool.false_or, Bool.and_eq_true] at fit ⊢
    exact ⟨fit.1, forestTokensFit_expands children _ expands fit.2⟩
  refine ⟨⟨{ element with bindings := o.bindings }, shown⟩, ?_, ?_, expandsBelow⟩
  · simp only [clone, Outcome.bind_ok_iff]
    exact ⟨ds, resolved, values, enhanced, Layer.inject_ok_iff.mpr
      ⟨(Layer.fill_ok_iff own).mpr ⟨_, shown, filled, filledBelow, rfl⟩, fitsBelow⟩⟩
  · exact ⟨rfl, rfl, rfl, enhanced, Element.shownAs_some_iff.mpr filled⟩

theorem expandBinding_expands (memory : r.source = repo.source) {e : Element}
    {children : List Layer}
    {s : CollectionSource} {scope : Option Values} {allowed : Option (List String)}
    {inner : Option Given → Outcome (List Layer)} (plain : e.isFragment = false)
    (binding : e.binding? = some s) (restricted : s.restriction scope = .ok allowed)
    (readable : r.Readable repo ⟨e, children⟩ s scope)
    (below : ∀ item ∈ r.shownItems repo e.id s allowed, ∃ ds,
      (inner (some (.ofValues item.values))).result = .ok ds ∧
      r.ExpandsForest repo none (some item.values) children ds) :
    ∃ shown, (r.expandBinding e s inner (scope.map Given.ofValues)).result = .ok shown ∧
      r.Expands repo none scope ⟨e, children⟩ shown := by
  have member : allowed ∈ (s.restriction scope).toOption := by simp [restricted, Except.toOption]
  have told := readable.told allowed member
  have selected := select_ok memory readable.stored restricted (readable.filters allowed member)
    told.loggable
  have each : ∀ item ∈ r.shownItems repo e.id s allowed, ∃ clone,
      (r.clone e inner (repo.fields s.id r.variant) item).result = .ok clone ∧
      ∃ values, r.ClonedAs (repo.fields s.id r.variant) e item values clone.toElement ∧
        r.ExpandsForest repo (some values) (some item.values) children clone.children := by
    intro item shown
    obtain ⟨ds, resolved, expands⟩ := below item shown
    obtain ⟨_, injected⟩ := isOk_iff.mp (readable.cloned allowed member item shown)
    obtain ⟨values, enhanced, injected⟩ := exceptBind_ok_iff.mp injected
    obtain ⟨clone, built, cloned, inside⟩ :=
      clone_expands plain resolved expands enhanced (isOk_iff.mpr ⟨_, injected⟩)
    exact ⟨clone, built, values, cloned, inside⟩
  obtain ⟨clones, all⟩ := exists_forall₂ each
  refine ⟨⟨fragmentElement e ((s.fetchWindow r.settings r.request e.id).pageMeta e.id s.id
    (restrictTo allowed (repo.ordered r.variant s.id)).length), clones⟩, ?_, plain, ?_⟩
  · refine expandBinding_ok_iff.mpr
      ⟨_, clones, selected, Outcome.all_ok_iff.mpr ?_, told.countable, rfl⟩
    exact List.forall₂_map_left_iff.mpr (all.imp fun _ _ h => h.1)
  · rw [binding]
    exact ⟨allowed, restricted, rfl, rfl, rfl, all.imp fun _ _ h => h.2⟩

mutual
theorem resolveLayer_expands (memory : r.source = repo.source) : ∀ (l : Layer)
    (scope : Option Values),
    (∀ n ∈ Layer.preorder l, n.isFragment = false) → r.AllReadable repo (r.reached repo scope l) →
      ∃ shown, (r.resolveLayer l (scope.map Given.ofValues)).result = .ok shown ∧
        r.Expands repo none scope l shown
  | ⟨e, children⟩, scope => by
    intro plain readable
    obtain ⟨here, inside⟩ := Layer.forall_preorder_iff.mp plain
    have free : e.isFragment = false := here
    simp only [resolveLayer, resolveElement, free, Bool.false_eq_true, ↓reduceIte]
    cases binding : e.binding? with
    | none =>
      have readableInside : r.AllReadable repo (r.reachedForest repo scope children) :=
        fun p member => readable p (by simp [reached, binding, member])
      obtain ⟨ds, resolved, expands⟩ :=
        resolveForest_expands memory children scope inside readableInside
      refine ⟨⟨e, ds⟩, Outcome.map_ok_iff.mpr ⟨ds, resolved, rfl⟩, here, ?_⟩
      rw [binding]
      exact ⟨Element.shownAs_none_iff.mpr rfl, expands⟩
    | some s =>
      have readableHere := readable (⟨e, children⟩, scope) (by simp [reached]) s (by simp [binding])
      obtain ⟨allowed, restricted⟩ := isOk_iff.mp readableHere.restricted
      have below : ∀ item ∈ r.shownItems repo e.id s allowed, ∃ ds,
          (r.resolveForest children (some (.ofValues item.values))).result = .ok ds ∧
          r.ExpandsForest repo none (some item.values) children ds := by
        intro item shown
        refine resolveForest_expands memory children (some item.values) inside fun p member =>
          readable p ?_
        simp only [reached, binding, restricted, List.mem_cons, List.mem_flatMap]
        exact Or.inr ⟨item, shown, member⟩
      obtain ⟨shown, expanded, expands⟩ :=
        expandBinding_expands memory here binding restricted readableHere below
      exact ⟨shown, Outcome.orElse_ok_iff.mpr (Or.inl expanded), expands⟩

theorem resolveForest_expands (memory : r.source = repo.source) : ∀ (ls : List Layer)
    (scope : Option Values),
    (∀ n ∈ Layer.preorderForest ls, n.isFragment = false) →
      r.AllReadable repo (r.reachedForest repo scope ls) →
      ∃ shown, (r.resolveForest ls (scope.map Given.ofValues)).result = .ok shown ∧
        r.ExpandsForest repo none scope ls shown
  | [], scope => by
    intro _ _
    exact ⟨[], rfl, rfl⟩
  | l :: ls, scope => by
    intro plain readable
    obtain ⟨head, tail⟩ := Layer.forall_preorderForest_cons.mp plain
    obtain ⟨d, resolved, expands⟩ := resolveLayer_expands memory l scope head
      (fun p member => readable p (by simp [reachedForest, member]))
    obtain ⟨rest, others, expandsRest⟩ := resolveForest_expands memory ls scope tail
      (fun p member => readable p (by simp [reachedForest, member]))
    refine ⟨d :: rest, ?_, d, rest, rfl, expands, expandsRest⟩
    simp only [resolveForest]
    exact Outcome.map_ok_iff.mpr ⟨(d, rest), Outcome.both_ok_iff.mpr ⟨resolved, others⟩, rfl⟩
end

theorem ClonedAs.isBound {fields : List Field} {e o : Element} {item : Item} {values : Values}
    (cloned : r.ClonedAs fields e item values o) : o.isBound = false := by
  have binding : o.binding? = none := cloned.shown.rest.binding?
  simp [Element.isBound, binding]

mutual
theorem unbound_of_expands : ∀ (l : Layer) {injected scope : Option Values} {shown : Layer},
    r.Expands repo injected scope l shown → ∀ n ∈ Layer.preorder shown, n.isBound = false
  | ⟨e, children⟩, injected, scope, ⟨o, ds⟩ => by
    rintro ⟨plain, expands⟩
    cases binding : e.binding? with
    | none =>
      rw [binding] at expands
      have free : o.binding? = none := expands.1.rest.binding?.trans binding
      have here : o.isBound = false := by simp [Element.isBound, free]
      exact Layer.forall_preorder_iff.mpr ⟨here, unboundForest_of_expands children expands.2⟩
    | some s =>
      rw [binding] at expands
      obtain ⟨_, _, _, _, element, clones⟩ := expands
      have free : o.binding? = none := by
        rw [show o = fragmentElement e _ from element]
        rfl
      have here : o.isBound = false := by simp [Element.isBound, free]
      refine Layer.forall_preorder_iff.mpr ⟨here, ?_⟩
      intro n below
      obtain ⟨⟨u, us⟩, isClone, inClone⟩ := Layer.mem_preorderForest_iff.mp below
      obtain ⟨item, _, values, cloned, inside⟩ := forall₂_mem_right clones isClone
      exact Layer.forall_preorder_iff.mpr ⟨cloned.isBound, unboundForest_of_expands children inside⟩
        n inClone

theorem unboundForest_of_expands : ∀ (ls : List Layer) {injected scope : Option Values}
    {shown : List Layer},
    r.ExpandsForest repo injected scope ls shown → ∀ n ∈ Layer.preorderForest shown,
      n.isBound = false
  | [], injected, scope, shown => by
    rintro rfl
    exact Layer.forall_preorderForest_nil
  | l :: ls, injected, scope, shown => by
    rintro ⟨d, rest, rfl, first, others⟩
    exact Layer.forall_preorderForest_cons.mpr
      ⟨unbound_of_expands l first, unboundForest_of_expands ls others⟩
end

/-- Resolution replaces every bound layer by a fragment with one clone for each item that the
    binding shows, in their order and to any depth. Where the source field of a binding names no
    items, none are fetched for it; it may show all of its collection only without a source field,
    or in no scope. -/
theorem resolution_expands_bindings (r : Resolver) (repo : Repository)
    (memory : r.source = repo.source) (layers : List Layer) (scope : Option Values)
    (plain : ∀ n ∈ Layer.preorderForest layers, n.isFragment = false)
    (readable : r.AllReadable repo (r.reachedForest repo scope layers)) :
    (∃ shown, (r.resolveForest layers (scope.map Given.ofValues)).result = .ok shown ∧
      r.ExpandsForest repo none scope layers shown ∧ ∀ n ∈ Layer.preorderForest shown,
        n.isBound = false) ∧
    (∀ (layerId : String) (s : CollectionSource) (values : Values) (field : String),
      s.sourceField? = some field →
      References.NamesNothing s.sourceType (values.lookup field) →
        s.restriction (some values) = .ok (some []) ∧
        r.fetchedItems repo layerId s (some []) = []) ∧
    (∀ (s : CollectionSource) (around : Option Values),
      s.restriction around = .ok none ↔ s.sourceField? = none ∨ around = none) := by
  obtain ⟨shown, resolved, expands⟩ := resolveForest_expands memory layers scope plain readable
  refine ⟨⟨shown, resolved, expands, unboundForest_of_expands layers expands⟩, ?_, fun _ _ =>
    restriction_none_iff⟩
  intro layerId s values field source nothing
  exact ⟨restriction_namesNothing source nothing, fetchedItems_nil r repo layerId s⟩

end Resolver

def blog : Repository :=
  (({} : Repository).add "posts" [{ id := "title" }, { id := "tags", type := .multiReference }]
    [{ id := "p1", collectionId := "posts", values :=
      [("title", "One"), ("tags", "[\"t1\", \"t2\"]")] }] none).add
    "tags" [{ id := "label" }]
      [{ id := "t1", collectionId := "tags", values := [("label", "Red")] }] none

def posts : Layer where
  id := "posts"
  bindings := {
    collection := some
      { id := "posts", sortBy := some "title", sortOrder := .descending
        pagination := some { enabled := true, itemsPerPage := some 2 } } }
  children := [
    { id := "title", bindings := { text := some (.field { fieldId := "title" }) } },
    { id := "tags"
      bindings := {
        text :=
          some
            (.dynamicText
              "<ycode-inline-variable>\x7b\"type\":\"field\",\"data\":\x7b\"field_id\":\"label\"\x7d\x7d</ycode-inline-variable>")
        collection := some { id := "tags", sourceFieldId := some "tags" } } }]

theorem resolution_expands_posts :
    ∃ shown, (Resolver.resolveForest { source := blog.source } [posts] none).result = .ok shown ∧
      Resolver.ExpandsForest { source := blog.source } blog none none [posts] shown ∧
      ∀ n ∈ Layer.preorderForest shown, n.isBound = false :=
  (Resolver.resolution_expands_bindings { source := blog.source } blog rfl [posts] none
    (by decide +kernel)
    (by decide +kernel)).1

theorem posts_stay_bound_past_end :
    ∃ shown,
      (Resolver.resolveForest
        { source := blog.source, request := { defaultPage := some (Nat.pow 10 4300 - 1) } }
      [posts] none).result = .ok shown ∧ ∃ n ∈ Layer.preorderForest shown, n.isBound = true := by
  have bound :
    (Resolver.resolveForest
      { source := blog.source, request := { defaultPage := some (Nat.pow 10 4300 - 1) } }
      [posts] none).result.map (fun ds => (Layer.preorderForest ds).any (·.isBound)) =
        .ok true := by decide +kernel
  obtain ⟨shown, resolved, found⟩ := exceptMap_ok_iff.mp bound
  exact ⟨shown, resolved, List.any_eq_true.mp found⟩

end PageLayers
