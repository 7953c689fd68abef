import PageLayers.Proofs.Scope

/-!
The passes of the resolution of a page, one after another: components, the page's own item,
bindings, and at last what is hidden and how controls are set.
-/

namespace PageLayers
open Layer

/-- The resolution comes to a tree before anything is hidden, with the values of the page's own item
    in scope. -/
def Page.ResolvesTo (p : Page) (r : Resolver) (values : Option Values)
    (resolved : List Layer) : Prop :=
  ∃ expanded tree, Component.expand p.components p.layers = .ok expanded ∧
    (p.itemValues r).result = .ok values ∧
    injectPageItem values expanded = .ok tree ∧
    (r.resolveForest tree (values.map Given.ofValues)).result = .ok resolved

/-- A fact about elements, slots apart. -/
def Layer.IgnoresSlots {α : Type} (f : Element → α) : Prop := ∀ e o, e.SameButSlots o → f o = f e

theorem injectPageItem_keeps {P : Element → Prop} (filled : ∀ e o, e.SameButSlots o → P e → P o)
    {values : Option Values}
    {layers tree : List Layer} (kept : ∀ n ∈ preorderForest layers, P n.toElement)
    (injected : injectPageItem values layers = .ok tree) : ∀ n ∈ preorderForest tree,
      P n.toElement := by
  cases values with
  | none =>
    rw [injectPageItem, Except.ok.injEq] at injected
    exact injected ▸ kept
  | some values =>
    exact fillForest_keeps filled layers kept (fillFittingForest_eq_ok_iff.mp injected).1

theorem ResolvedPage.bounded_eq (page : ResolvedPage) :
    page.bounded =
      if forestDepthWith (fun _ => 1) page.layers ≤ shownLimit then .ok page
        else .error .tooDeep := by
  unfold ResolvedPage.bounded boundedForest
  split <;> rfl

namespace Page
variable {p : Page} {r : Resolver}

theorem exists_stored {expanded : List Layer}
    (expands : Component.expand p.components p.layers = .ok expanded) :
    ∀ n ∈ preorderForest expanded, ∃ l ∈ preorderForest p.stored, l.toElement = n.toElement :=
  Page.expand_keeps (P := fun e => ∃ l ∈ preorderForest p.stored, l.toElement = e)
    (fun n member => ⟨n, member, rfl⟩) expands

theorem exists_stored_of_injected {α : Type} {f : Element → α} (ignores : IgnoresSlots f)
    {values : Option Values}
    {expanded tree : List Layer} (expands : Component.expand p.components p.layers = .ok expanded)
    (injected : injectPageItem values expanded = .ok tree) :
    ∀ n ∈ preorderForest tree, ∃ l ∈ preorderForest p.stored, f l.toElement = f n.toElement := by
  refine injectPageItem_keeps (P := fun e => ∃ l ∈ preorderForest p.stored, f l.toElement = f e) ?_
    ?_ injected
  · rintro e o same ⟨l, stored, equal⟩
    exact ⟨l, stored, equal.trans (ignores e o same).symm⟩
  · intro n member
    obtain ⟨l, stored, same⟩ := exists_stored expands n member
    exact ⟨l, stored, congrArg f same⟩

theorem resolve_ok_iff {page : ResolvedPage} : (p.resolve r).result = .ok page ↔
    ∃ values resolved, p.ResolvesTo r values resolved ∧ p.finish r values resolved = .ok page := by
  simp only [resolve, ResolvesTo, Outcome.bind_ok_iff, Outcome.result_ofResult]
  constructor
  · rintro ⟨expanded, expands, values, read, tree, injected, resolved, done, finished⟩
    exact ⟨values, resolved, ⟨expanded, tree, expands, read, injected, done⟩, finished⟩
  · rintro ⟨values, resolved, ⟨expanded, tree, expands, read, injected, done⟩, finished⟩
    exact ⟨expanded, expands, values, read, tree, injected, resolved, done, finished⟩

theorem finish_ok_iff {values : Option Values} {resolved : List Layer} {page : ResolvedPage} :
    p.finish r values resolved = .ok page ↔ ∃ seen layers,
      visibleForest r.evaluator (itemCounts resolved) resolved values = .ok seen ∧
      forestDepthWith (fun _ => 1) seen.layers ≤ shownLimit ∧
      Pagination.apply (Pagination.collect resolved) seen.layers = .ok layers ∧
      page = ⟨layers, Pagination.collect resolved, p.addSlug r.settings (itemSlugs layers),
        itemCounts resolved⟩ := by
  have bounded_ok : ∀ {page page' : ResolvedPage}, page.bounded = .ok page' ↔
      forestDepthWith (fun _ => 1) page.layers ≤ shownLimit ∧ page = page' := by
    intro page page'
    rw [ResolvedPage.bounded_eq]
    split
    · rename_i fits
      simp [fits]
    · rename_i deep
      simp [deep]
  simp only [finish, exceptBind_ok_iff, exceptPure_ok_iff, bounded_ok]
  constructor
  · rintro ⟨seen, filtered, _, ⟨fits, rfl⟩, layers, patched, rfl⟩
    exact ⟨seen, layers, filtered, fits, patched, rfl⟩
  · rintro ⟨seen, layers, filtered, fits, patched, rfl⟩
    exact ⟨seen, filtered, _, ⟨fits, rfl⟩, layers, patched, rfl⟩

end Page
end PageLayers
