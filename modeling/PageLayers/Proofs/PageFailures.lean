import PageLayers.Proofs.ComponentChains
import PageLayers.Proofs.FragmentWalk
import PageLayers.Proofs.PagePasses

/-!
What keeps a page from being resolved. Bindings and references get over all that a source may fail
with, but the page's own item, conditions and marks of pagination controls are read outside of any
binding, and what they cannot read ends the resolution. Violations have no causes but fragments and
components that contain themselves.
-/

namespace PageLayers
open Layer

/-- What may keep a page from being resolved, with the failure that it leads to. -/
inductive Page.Hindrance (p : Page) (r : Resolver) : Failure → Prop
  /-- A node that an earlier resolution left behind. -/
  | fragment (l : Layer) (stored : l ∈ preorderForest p.stored) (left : l.isFragment = true) :
      Hindrance p r (.fragmentInTree l.id)
  /-- A component that contains itself. -/
  | cycle (c : Component) (chain : List String) (known : c ∈ p.components)
      (cyclic : c.ContainsItself p.components) :
      Hindrance p r (.recursiveComponent c.id chain)
  /-- Components that would come to lie too deep within each other. -/
  | deepComponents (deep : Component.TooDeep p.components p.layers) : Hindrance p r .tooDeep
  /-- A token that cannot be read, on the page of an item. -/
  | token (l : Layer) (slot : Slot) (content : String) (cause : Failure)
      (own : p.item.isSome = true)
      (stored : l ∈ preorderForest p.stored)
        (shown : l.bindings.get slot = some (.dynamicText content))
      (unreadable : Token.Unreadable content cause) : Hindrance p r cause
  /-- Tokens that do not fit where they stand, on the page of an item. -/
  | deepTokens (expanded : List Layer) (own : p.item.isSome = true)
      (expands : Component.expand p.components p.layers = .ok expanded)
      (unfit : forestTokensFit tokenRoom expanded = false) : Hindrance p r .tooDeep
  /-- A reference value that cannot be read, of the page's own item or one that is followed from it.
      -/
  | reference (item : Item) (held : Values) (cause : Failure) (own : p.item = some item)
      (follows : r.settings.resolveReferences = true)
        (isHeld : References.Held r.source r.variant item.values held)
      (undecodable : References.Undecodable held cause) : Hindrance p r cause
  /-- A way of references from the page's own item that is too long to be followed. -/
  | deepReferences (item : Item) (own : p.item = some item)
      (follows : r.settings.resolveReferences = true)
      (deep : References.LeadsTooDeep (References.leads r.source r.variant) References.depthLimit
        item.values p.fields) :
      Hindrance p r .tooDeep
  /-- A condition on a list of references that cannot be read, in the scope of a node that it
      decides on. -/
  | condition (values : Option Values) (resolved : List Layer) (lineage : Lineage)
      (x : Visibility.Expression)
      (g : Visibility.Group) (c : Visibility.Condition) (cause : Failure)
        (resolves : p.ResolvesTo r values resolved)
      (member : lineage ∈ forestLineages [] resolved) (stated : x ∈ lineage.expression?)
        (group : g ∈ x.groups)
      (tested : c ∈ g.conditions)
        (undecodable : c.Undecodable (lineage.context values (itemCounts resolved)) cause) :
      Hindrance p r cause
  /-- A mark of a pagination control that is a list or an object, on a page with paged layers. -/
  | mark (l : Layer) (mark : Json) (cause : Failure) (values : Option Values)
      (resolved : List Layer)
      (stored : l ∈ preorderForest p.stored)
        (marked : l.attributes.lookup Pagination.targetAttribute = some mark)
      (composite : Pagination.CompositeMark mark cause) (resolves : p.ResolvesTo r values resolved)
      (paged : Pagination.collect resolved ≠ []) : Hindrance p r cause
  /-- Layers that are visible and lie too deep within each other. -/
  | deepPage (values : Option Values) (resolved : List Layer) (seen : Visible)
      (resolves : p.ResolvesTo r values resolved)
      (filtered : visibleForest r.evaluator (itemCounts resolved) resolved values = .ok seen)
      (deep : shownLimit < forestDepthWith (fun _ => 1) seen.layers) : Hindrance p r .tooDeep

namespace Page
variable {p : Page} {r : Resolver} {cause : Failure}

theorem itemValues_error (calm : r.source.Calm) (failed : (p.itemValues r).result = .error cause) :
    p.Hindrance r cause := by
  unfold itemValues at failed
  cases own : p.item with
  | none => simp [own] at failed
  | some item =>
    rw [own] at failed
    have unenhanced := Outcome.map_error_iff.mp failed
    unfold Resolver.enhance at unenhanced
    split at unenhanced
    · rename_i follows
      rcases References.enhance_error calm unenhanced with ⟨held, isHeld, undecodable⟩ | ⟨rfl, deep⟩
      · exact .reference item held cause own follows isHeld undecodable
      · exact .deepReferences item own follows deep
    · simp at unenhanced

theorem injectPageItem_error {values : Option Values} {expanded : List Layer}
    (expands : Component.expand p.components p.layers = .ok expanded)
    (read : (p.itemValues r).result = .ok values)
    (failed : injectPageItem values expanded = .error cause) : p.Hindrance r cause := by
  cases values with
  | none => simp [injectPageItem] at failed
  | some values =>
    have own : p.item.isSome = true := by
      by_contra none
      rw [Option.not_isSome_iff_eq_none] at none
      simp [itemValues, none] at read
    rcases injectForest_error failed
      with ⟨n, member, slot, content, shown, unreadable⟩ | ⟨rfl, unfit⟩
    · obtain ⟨l, stored, same⟩ := exists_stored expands n member
      exact .token l slot content cause own stored (same ▸ shown) unreadable
    · exact .deepTokens expanded own expands unfit

theorem resolveForest_error (calm : r.source.Calm)
    (standard : r.evaluator = Visibility.Expression.eval)
    {values : Option Values} {expanded tree : List Layer} {scope : Option Given}
    (expands : Component.expand p.components p.layers = .ok expanded)
    (injected : injectPageItem values expanded = .ok tree)
    (failed : (r.resolveForest tree scope).result = .error cause) : p.Hindrance r cause := by
  obtain ⟨n, member, left, rfl⟩ := Resolver.resolveForest_error calm standard tree failed
  have ignores : IgnoresSlots fun e => (e.id, e.isFragment) := by
    intro e o same
    simp only [same.id, same.isFragment]
  obtain ⟨l, stored, equal⟩ := exists_stored_of_injected ignores expands injected n member
  obtain ⟨id, fragment⟩ := Prod.mk.inj equal
  rw [← id]
  exact .fragment l stored (fragment.trans left)

def MarkStored (p : Page) (o : Element) : Prop :=
  ∀ mark, o.attributes.lookup Pagination.targetAttribute = some mark →
    ∃ l ∈ preorderForest p.stored, l.attributes.lookup Pagination.targetAttribute = some mark

/-- Resolution adds no marks: fragments have no attributes, and clones get another one. -/
theorem ResolvesTo.marks {values : Option Values} {resolved : List Layer}
    (resolves : p.ResolvesTo r values resolved) :
    ∀ n ∈ preorderForest resolved, p.MarkStored n.toElement := by
  obtain ⟨expanded, tree, expands, _, injected, done⟩ := resolves
  have inTree : ∀ n ∈ preorderForest tree, ∃ l ∈ preorderForest p.stored,
    l.attributes = n.attributes :=
    exists_stored_of_injected (f := fun e => e.attributes)
      (fun _ _ same => congrArg (·.attributes) same) expands injected
  have carries :
    Resolver.Carries (fun e => ∃ l ∈ preorderForest p.stored, l.attributes = e.attributes)
      p.MarkStored :=
    { kept := by
        rintro e ⟨l, isStored, same⟩ mark marked
        exact ⟨l, isStored, same ▸ marked⟩
      fragment := by
        intro e pagination _ mark marked
        simp [Resolver.fragmentElement] at marked
      clone := by
        rintro e item slug values ⟨l, isStored, same⟩ mark marked
        have other : Pagination.targetAttribute ≠ Resolver.itemIdAttribute := by decide
        simp only [Resolver.cloneElement, Entries.lookup_put, if_neg other] at marked
        exact ⟨l, isStored, same ▸ marked⟩
      filled := by
        intro e o same kept mark marked
        have attributes : o.attributes = e.attributes := congrArg (·.attributes) same
        exact kept mark (attributes ▸ marked) }
  exact Resolver.resolveForest_keeps carries.makes tree inTree done

theorem finish_error (standard : r.evaluator = Visibility.Expression.eval) {values : Option Values}
    {resolved : List Layer} (resolves : p.ResolvesTo r values resolved)
    (failed : p.finish r values resolved = .error cause) : p.Hindrance r cause := by
  unfold finish at failed
  rcases exceptBind_error_iff.mp failed with filtering | ⟨seen, filtered, rest⟩
  · obtain ⟨lineage, member, x, stated, fails⟩ := visibleForest_error filtering
    rw [standard] at fails
    obtain ⟨g, group, c, tested, undecodable⟩ := Visibility.Expression.eval_error fails
    exact .condition values resolved lineage x g c cause resolves member stated group tested
      undecodable
  · simp only [ResolvedPage.bounded_eq] at rest
    split at rest
    · simp only [exceptBind_error_iff, exceptPure_error_iff, and_false, exists_false, or_false,
        Except.ok.injEq, exists_eq_left', reduceCtorEq, false_or] at rest
      obtain ⟨paged, n, member, mark, marked, composite⟩ := Pagination.apply_error rest
      have kept := (visibleForest_elements filtered).subset (List.mem_map_of_mem member)
      obtain ⟨shown, isResolved, same⟩ := List.mem_map.mp kept
      obtain ⟨l, stored, marked⟩ := resolves.marks shown isResolved mark (same ▸ marked)
      exact .mark l mark cause values resolved stored marked composite resolves paged
    · rename_i deep
      obtain rfl := Except.error.inj rest
      exact .deepPage values resolved seen resolves filtered (Nat.lt_of_not_le deep)

theorem resolve_error (calm : r.source.Calm) (standard : r.evaluator = Visibility.Expression.eval)
    (failed : (p.resolve r).result = .error cause) : p.Hindrance r cause := by
  rcases Outcome.bind_error_iff.mp failed with expansion | ⟨expanded, expands, rest⟩
  · rcases Component.expand_error expansion with ⟨rfl, deep⟩ | ⟨others, c, goes, back, rfl⟩
    · exact .deepComponents deep
    · obtain ⟨known, cyclic⟩ := goes.contains_itself (by simpa using back)
      exact .cycle c _ known cyclic
  · rcases Outcome.bind_error_iff.mp rest with reading | ⟨values, read, rest⟩
    · exact itemValues_error calm reading
    · rcases Outcome.bind_error_iff.mp rest with injection | ⟨tree, injected, rest⟩
      · exact injectPageItem_error expands read injection
      · rcases Outcome.bind_error_iff.mp rest with resolution | ⟨resolved, done, finishing⟩
        · exact resolveForest_error calm standard expands injected resolution
        · exact finish_error standard ⟨expanded, tree, expands, read, injected, done⟩ finishing

theorem Hindrance.violation (hindrance : p.Hindrance r cause)
    (violation : cause.isViolation = true) :
    (∃ l ∈ preorderForest p.stored, l.isFragment = true ∧ cause = .fragmentInTree l.id) ∨
      ∃ c ∈ p.components, c.ContainsItself p.components ∧
        ∃ chain, cause = .recursiveComponent c.id chain := by
  cases hindrance with
  | fragment l stored left => exact .inl ⟨l, stored, left, rfl⟩
  | cycle c chain known cyclic => exact .inr ⟨c, known, cyclic, chain, rfl⟩
  | token l slot content _ own stored shown unreadable => simp [unreadable.harmless] at violation
  | deepComponents => simp [Failure.isViolation] at violation
  | deepTokens => simp [Failure.isViolation] at violation
  | deepReferences => simp [Failure.isViolation] at violation
  | reference item held _ own follows isHeld undecodable => simp [undecodable.harmless] at violation
  | condition values resolved lineage x g c _ resolves member stated group tested undecodable =>
    simp [undecodable.harmless] at violation
  | mark l mark _ values resolved stored marked composite => simp [composite.harmless] at violation
  | deepPage => simp [Failure.isViolation] at violation

end Page

end PageLayers
