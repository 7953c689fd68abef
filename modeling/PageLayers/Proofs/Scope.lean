import PageLayers.Page
import PageLayers.Proofs.Carried
import PageLayers.Proofs.Expansion

/-!
Which item a content slot of a resolved page shows: that of the innermost clone around it, else the
page's own item, else none. Three recursions have a part in this. The page's item is injected first
and stops at bound layers; bindings are resolved from the outside in; and an item is injected into
its clone after the children of the clone were resolved, which stops at the fragments within it.
-/

namespace PageLayers

/-- The layers that are stored for a page: its own, and those of the components. -/
def Page.stored (p : Page) : List Layer := p.layers ++ p.components.flatMap (·.layers)

theorem Page.expand_keeps {P : Element → Prop} {p : Page} {expanded : List Layer}
    (stored : ∀ n ∈ Layer.preorderForest p.stored, P n.toElement)
    (expands : Component.expand p.components p.layers = .ok expanded) :
    ∀ n ∈ Layer.preorderForest expanded, P n.toElement := by
  have member : ∀ l ∈ p.stored, ∀ n ∈ Layer.preorder l, P n.toElement :=
    fun l root n inside => stored n (Layer.mem_preorderForest_iff.mpr ⟨l, root, inside⟩)
  refine Component.expand_keeps ?_ ?_ expands
  · intro c known n inside
    obtain ⟨l, root, below⟩ := Layer.mem_preorderForest_iff.mp inside
    exact member l (List.mem_append.mpr (Or.inr (List.mem_flatMap.mpr ⟨c, known, root⟩))) n below
  · intro n inside
    obtain ⟨l, root, below⟩ := Layer.mem_preorderForest_iff.mp inside
    exact member l (List.mem_append.mpr (Or.inl root)) n below

namespace Resolver

mutual
/-- The second layer is the first one with its slots resolved in the scope around it. In the place
    of a bound layer stands a fragment; each clone in it has an item of its own, and that item's
    values are the scope for all within it. -/
def Scoped (r : Resolver) (repo : Repository) : Option Values → Layer → Layer → Prop
  | around, ⟨e, children⟩, shown =>
    match e.binding? with
    | none =>
      shown.isFragment = false ∧ shown.itemValues = none ∧
        (∀ slot, SlotShows around (e.bindings.get slot) (shown.bindings.get slot)) ∧
        ScopedForest r repo around children shown.children
    | some s =>
      shown.isFragment = true ∧ shown.itemValues = none ∧
        ∀ clone ∈ shown.children, ∃ allowed, ∃ item ∈ r.shownItems repo e.id s allowed, ∃ values,
          (r.enhance item.values (repo.fields s.id r.variant)).result = .ok values ∧
          clone.isFragment = false ∧ clone.itemId = some item.id ∧ clone.itemValues = some values ∧
          (∀ slot, SlotShows (some values) (e.bindings.get slot) (clone.bindings.get slot)) ∧
          ScopedForest r repo (some values) children clone.children

def ScopedForest (r : Resolver) (repo : Repository) : Option Values → List Layer → List Layer → Prop
  | _, [], shown => shown = []
  | around, l :: ls, shown =>
    ∃ d rest, shown = d :: rest ∧ Scoped r repo around l d ∧ ScopedForest r repo around ls rest
end

end Resolver

namespace Layer

mutual
/-- The nodes of a resolved layer, each with the values of the innermost clone around it. A clone is
    around itself. -/
def scopes : Option Values → Layer → List (Option Values × Layer)
  | around, ⟨e, children⟩ =>
    (e.itemValues.or around, ⟨e, children⟩) :: scopesForest (e.itemValues.or around) children

def scopesForest : Option Values → List Layer → List (Option Values × Layer)
  | _, [] => []
  | around, l :: ls => scopes around l ++ scopesForest around ls
end

/-- The slots of a node, unless it is a fragment, hold fixed content wherever there is an item in
    scope. -/
def FixedIn (p : Option Values × Layer) : Prop :=
  p.1.isSome = true → p.2.isFragment = false → ∀ slot, ∀ v ∈ p.2.bindings.get slot, v.isFixed = true

theorem mem_scopes_iff {p : Option Values × Layer} {around : Option Values} {l : Layer} :
    p ∈ scopes around l ↔ p = (l.itemValues.or around, l) ∨
    p ∈ scopesForest (l.itemValues.or around) l.children := by
  cases l
  rw [scopes, List.mem_cons]

theorem mem_scopesForest_iff {p : Option Values × Layer} {around : Option Values}
    {ls : List Layer} : p ∈ scopesForest around ls ↔ ∃ l ∈ ls, p ∈ scopes around l := by
  induction ls with
  | nil => simp [scopesForest]
  | cons l ls ih => simp [scopesForest, ih]

end Layer

namespace Resolver
variable {r : Resolver} {repo : Repository}

mutual
/-- Resolving what was injected before is resolving and injecting: the injection stops where the
    scope changes. -/
theorem expands_of_fill {values : Values} : ∀ (l : Layer) {scope : Option Values} {t shown : Layer},
    (∀ n ∈ Layer.preorder l, n.isFragment = false) →
      Layer.fill (SlotValue.inject values) l = .ok t →
      r.Expands repo none scope t shown → r.Expands repo (some values) scope l shown
  | ⟨e, children⟩, scope, t, shown => by
    intro plain filled expands
    obtain ⟨here, inside⟩ := Layer.forall_preorder_iff.mp plain
    refine ⟨here, ?_⟩
    cases binding : e.binding? with
    | some s =>
      have own : e.hasOwnScope = true := by simp [Element.hasOwnScope, Element.isBound, binding]
      rw [Layer.fill_own own, Except.ok.injEq] at filled
      subst filled
      have bound := expands.2
      rw [binding] at bound
      exact bound
    | none =>
      have free : e.isFragment = false := here
      have own : e.hasOwnScope = false := by
        simp [Element.hasOwnScope, Element.isBound, binding, free]
      obtain ⟨o, ts, first, rest, rfl⟩ := (Layer.fill_ok_iff own).mp filled
      have unbound := expands.2
      rw [(Element.fill_ok_iff.mp first).2.binding?, binding] at unbound
      obtain ⟨same, below⟩ := unbound
      have eq : shown.toElement = o := Element.shownAs_none_iff.mp same
      refine ⟨Element.shownAs_some_iff.mpr (eq ▸ first), ?_⟩
      exact expandsForest_of_fill children inside rest below

theorem expandsForest_of_fill {values : Values} : ∀ (ls : List Layer) {scope : Option Values}
    {ts shown : List Layer},
    (∀ n ∈ Layer.preorderForest ls, n.isFragment = false) →
      Layer.fillForest (SlotValue.inject values) ls = .ok ts →
        r.ExpandsForest repo none scope ts shown →
        r.ExpandsForest repo (some values) scope ls shown
  | [], scope, ts, shown => by
    intro _ filled expands
    simp only [Layer.fillForest, Except.ok.injEq] at filled
    subst filled
    exact expands
  | l :: ls, scope, ts, shown => by
    intro plain filled expands
    obtain ⟨t, others, fillsFirst, fillsRest, rfl⟩ := Layer.fillForest_cons_ok_iff.mp filled
    obtain ⟨d, rest, rfl, first, later⟩ := expands
    obtain ⟨head, tail⟩ := Layer.forall_preorderForest_cons.mp plain
    exact ⟨d, rest, rfl, expands_of_fill l head fillsFirst first,
      expandsForest_of_fill ls tail fillsRest later⟩
end

mutual
theorem scoped_of_expands : ∀ (l : Layer) {injected scope : Option Values} {shown : Layer},
    (∀ n ∈ Layer.preorder l, n.itemValues = none) → r.Expands repo injected scope l shown →
      r.Scoped repo injected l shown
  | ⟨e, children⟩, injected, scope, ⟨o, ds⟩ => by
    rintro unstamped ⟨plain, expands⟩
    obtain ⟨here, inside⟩ := Layer.forall_preorder_iff.mp unstamped
    unfold Scoped
    cases binding : e.binding? with
    | none =>
      rw [binding] at expands
      obtain ⟨shown, below⟩ := expands
      have free : o.isFragment = false := shown.rest.isFragment.trans plain
      have values : o.itemValues = none := shown.rest.itemValues.trans here
      exact ⟨free, values, shown.slots, scopedForest_of_expands children inside below⟩
    | some s =>
      rw [binding] at expands
      obtain ⟨allowed, _, _, name, element, clones⟩ := expands
      have fragment : o.isFragment = true := by
        have named : o.name = fragmentName := name
        simp [Element.isFragment, named]
      have values : o.itemValues = none := by
        have eq : o = fragmentElement e _ := element
        rw [eq]
        exact here
      refine ⟨fragment, values, ?_⟩
      intro clone member
      obtain ⟨item, shows, values, cloned, below⟩ := forall₂_mem_right clones member
      have free : clone.isFragment = false := cloned.shown.rest.isFragment.trans plain
      have slots : ∀ slot,
          SlotShows (some values) (e.bindings.get slot) (clone.bindings.get slot) := by
        intro slot
        have filled := cloned.shown.slots slot
        cases slot <;> exact filled
      exact ⟨allowed, item, shows, values, cloned.enhanced, free, cloned.itemId,
        cloned.itemValues, slots, scopedForest_of_expands children inside below⟩

theorem scopedForest_of_expands : ∀ (ls : List Layer) {injected scope : Option Values}
    {shown : List Layer},
    (∀ n ∈ Layer.preorderForest ls, n.itemValues = none) →
      r.ExpandsForest repo injected scope ls shown →
      r.ScopedForest repo injected ls shown
  | [], injected, scope, shown => by
    rintro _ rfl
    rfl
  | l :: ls, injected, scope, shown => by
    rintro unstamped ⟨d, rest, rfl, first, others⟩
    obtain ⟨head, tail⟩ := Layer.forall_preorderForest_cons.mp unstamped
    exact ⟨d, rest, rfl, scoped_of_expands l head first, scopedForest_of_expands ls tail others⟩
end

theorem fixed_of_shows {scope : Option Values} {stored : Element} {n : Layer}
    (slots : ∀ slot, SlotShows scope (stored.bindings.get slot) (n.bindings.get slot)) :
    Layer.FixedIn (scope, n) := by
  intro item _ slot v value
  obtain ⟨values, around⟩ := Option.isSome_iff_exists.mp item
  have shows := slots slot
  rw [show scope = some values from around] at shows
  exact shows.isFixed value

mutual
theorem fixed_of_scoped : ∀ (l : Layer) {around : Option Values} {shown : Layer},
    r.Scoped repo around l shown →
    ∀ p ∈ Layer.scopes around shown, Layer.FixedIn p
  | ⟨e, children⟩, around, shown => by
    intro placed p member
    unfold Scoped at placed
    cases binding : e.binding? with
    | none =>
      rw [binding] at placed
      obtain ⟨_, values, slots, below⟩ := placed
      rw [Layer.mem_scopes_iff, values, Option.none_or] at member
      rcases member with rfl | deeper
      · exact fixed_of_shows slots
      · exact fixedForest_of_scoped children below p deeper
    | some s =>
      rw [binding] at placed
      obtain ⟨fragment, values, clones⟩ := placed
      rw [Layer.mem_scopes_iff, values, Option.none_or] at member
      rcases member with rfl | inside
      · intro _ free
        simp [fragment] at free
      · obtain ⟨clone, isClone, inClone⟩ := Layer.mem_scopesForest_iff.mp inside
        obtain ⟨_, _, _, values, _, _, _, stamped, slots, below⟩ := clones clone isClone
        rw [Layer.mem_scopes_iff, stamped, Option.some_or] at inClone
        rcases inClone with rfl | deeper
        · exact fixed_of_shows slots
        · exact fixedForest_of_scoped children below p deeper

theorem fixedForest_of_scoped : ∀ (ls : List Layer) {around : Option Values} {shown : List Layer},
    r.ScopedForest repo around ls shown → ∀ p ∈ Layer.scopesForest around shown, Layer.FixedIn p
  | [], around, shown => by
    rintro rfl p member
    simp [Layer.scopesForest] at member
  | l :: ls, around, shown => by
    rintro ⟨d, rest, rfl, first, others⟩ p member
    simp only [Layer.scopesForest, List.mem_append] at member
    rcases member with here | later
    · exact fixed_of_scoped l first p here
    · exact fixedForest_of_scoped ls others p later
end

/-- A page that can be resolved shows in each slot the item of the innermost clone around it, and
    outside all clones the page's own item. Where neither is there the slot is as it is stored, and
    where one is nothing is left to be put in. -/
theorem slots_show_innermost_item (r : Resolver) (repo : Repository)
    (memory : r.source = repo.source) (p : Page)
    (plain : ∀ n ∈ Layer.preorderForest p.stored, n.isFragment = false ∧ n.itemValues = none)
    {expanded tree : List Layer} (expands : Component.expand p.components p.layers = .ok expanded)
    {values : Option Values} (read : (p.itemValues r).result = .ok values)
    (injected : injectPageItem values expanded = .ok tree)
    (readable : r.AllReadable repo (r.reachedForest repo values tree)) :
    ∃ shown, (r.resolveForest tree (values.map Given.ofValues)).result = .ok shown ∧
      r.ScopedForest repo values expanded shown ∧
      ∀ q ∈ Layer.scopesForest values shown, Layer.FixedIn q := by
  have fragments : ∀ n ∈ Layer.preorderForest expanded, n.isFragment = false :=
    Page.expand_keeps (P := fun e => e.isFragment = false)
      (fun n member => (plain n member).1) expands
  have unstamped : ∀ n ∈ Layer.preorderForest expanded, n.itemValues = none :=
    Page.expand_keeps (P := fun e => e.itemValues = none)
      (fun n member => (plain n member).2) expands
  have whole : ∃ shown, (r.resolveForest tree (values.map Given.ofValues)).result = .ok shown ∧
      r.ExpandsForest repo values values expanded shown := by
    cases values with
    | none =>
      have same : expanded = tree := Except.ok.inj injected
      exact resolveForest_expands memory tree none (same ▸ fragments) readable |>.imp fun _ h =>
        ⟨h.1, same ▸ h.2⟩
    | some own =>
      have filled := (Layer.fillFittingForest_eq_ok_iff.mp injected).1
      obtain ⟨shown, resolved, below⟩ := resolveForest_expands memory tree (some own)
        (Layer.fillForest_keeps (P := fun e => e.isFragment = false)
          (fun _ _ same free => same.isFragment.trans free)
          expanded fragments filled) readable
      exact ⟨shown, resolved, expandsForest_of_fill expanded fragments filled below⟩
  obtain ⟨shown, resolved, below⟩ := whole
  have placed := scopedForest_of_expands expanded unstamped below
  exact ⟨shown, resolved, placed, fixedForest_of_scoped expanded placed⟩

end Resolver

def front (title : SlotValue) (badge : List Layer) : List Layer := [{
  id := "front"
  bindings := { text := some title }
  children := [{
    id := "posts"
    bindings :=
      { text := some (.field { fieldId := "title" }), collection := some { id := "posts" } }
    children := [{
      id := "tags"
      bindings := {
        text := some (.field { fieldId := "title" })
        collection := some { id := "tags", sourceFieldId := some "tags" } }
      componentId := some "badge"
      children := badge }] }] }]

def badge : Component where
  id := "badge"
  layers := [{ id := "label", bindings := { text := some (.field { fieldId := "label" }) } }]

def home : Page where
  layers := front (.field { fieldId := "title" }) []
  components := [badge]
  item := some { id := "home", collectionId := "pages", values := [("title", "Home")] }

theorem home_slots_show_innermost_item :
    ∃ shown, (Resolver.resolveForest { source := blog.source } (front (.static "Home") badge.layers)
        (some (.ofValues [("title", "Home")]))).result = .ok shown ∧
      Resolver.ScopedForest { source := blog.source } blog (some [("title", "Home")])
        (front (.field { fieldId := "title" }) badge.layers) shown ∧
      ∀ q ∈ Layer.scopesForest (some [("title", "Home")]) shown, Layer.FixedIn q := by
  have expands : Component.expand home.components home.layers =
      .ok (front (.field { fieldId := "title" }) badge.layers) := by decide +kernel
  have read : (home.itemValues { source := blog.source }).result =
    .ok (some [("title", "Home")]) := by decide +kernel
  have injected :
    injectPageItem (some [("title", "Home")]) (front (.field { fieldId := "title" }) badge.layers) =
      .ok (front (.static "Home") badge.layers) := by decide +kernel
  have readable : Resolver.AllReadable { source := blog.source } blog
      (Resolver.reachedForest { source := blog.source } blog (some [("title", "Home")])
        (front (.static "Home") badge.layers)) := by decide +kernel
  exact Resolver.slots_show_innermost_item { source := blog.source } blog rfl home
    (by decide +kernel) expands read injected
    readable

def taggedPosts : Layer where
  id := "posts"
  bindings := { collection := some { id := "posts" } }
  children := [{
    id := "tags"
    bindings := {
      text := some (.field { fieldId := "title" })
      collection :=
        some { id := "tags", pagination := some { enabled := true, itemsPerPage := some 10 } } } }]

theorem tags_are_left_unfilled_past_end :
    ∃ shown,
      (Resolver.resolveForest
        { source := blog.source, request := { defaultPage := some (Nat.pow 10 4300 - 1) } }
      [taggedPosts] none).result = .ok shown ∧ ∃ q ∈ Layer.scopesForest none shown,
        ¬ Layer.FixedIn q := by
  have unfilled : (Resolver.resolveForest
      { source := blog.source, request := { defaultPage := some (Nat.pow 10 4300 - 1) } }
        [taggedPosts] none).result.map
        (fun ds => (Layer.scopesForest none ds).any fun q =>
          q.1.isSome && !q.2.isFragment && q.2.bindings.text.any fun v => !v.isFixed) =
            .ok true := by decide +kernel
  obtain ⟨shown, resolved, found⟩ := exceptMap_ok_iff.mp unfilled
  obtain ⟨q, member, left⟩ := List.any_eq_true.mp found
  rw [Bool.and_eq_true, Bool.and_eq_true, Bool.not_eq_true'] at left
  obtain ⟨⟨inScope, plain⟩, slot⟩ := left
  refine ⟨shown, resolved, q, member, fun fixed => ?_⟩
  obtain ⟨v, text, free⟩ := (Option.any_eq_true _ _).mp slot
  simp [fixed inScope plain .text v text] at free

end PageLayers
