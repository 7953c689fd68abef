import PageLayers.Proofs.InjectionOrder
import PageLayers.Proofs.StageFailures

/-!
The layers that the resolution of bindings comes to, and the scopes in which it does. It goes on
into the children of an unbound layer, into those of a bound one for each item that the binding
selects, and once more in the scope around it where the binding fails. Over a source that reports no
violation it fails only where it comes upon a fragment. The converse holds as long as the clones of
a layer do not fail in different ways, since of their failures one only is heard of.
-/

namespace PageLayers
open Layer

namespace Resolver

abbrev cloneLayer (r : Resolver) (l : Layer) (fields : List Field) (item : Item) : Outcome Layer :=
  r.clone l.toElement (fun scope => r.resolveForest l.children scope) fields item

abbrev expandLayer (r : Resolver) (l : Layer) (s : CollectionSource) (scope : Option Given) :
    Outcome Layer :=
  r.expandBinding l.toElement s (fun scope => r.resolveForest l.children scope) scope

/-- Resolving a layer in a scope, one comes to a node in a scope. -/
inductive Meets (r : Resolver) : Layer → Option Given → Layer → Option Given → Prop
  | here {l : Layer} {scope : Option Given} : Meets r l scope l scope
  | unbound {l child n : Layer} {scope around : Option Given} (plain : l.isFragment = false)
      (free : l.binding? = none)
      (member : child ∈ l.children) (below : Meets r child scope n around) :
        Meets r l scope n around
  | item {l child n : Layer} {scope around : Option Given} {s : CollectionSource}
      {selection : Selection} {i : Item}
      (plain : l.isFragment = false) (binding : l.binding? = some s)
      (selected : (r.select l.id s scope).result = .ok selection) (shown : i ∈ selection.items)
      (member : child ∈ l.children) (below : Meets r child (some (.ofValues i.values)) n around) :
        Meets r l scope n around
  | kept {l child n : Layer} {scope around : Option Given} {s : CollectionSource} {cause : Failure}
      (plain : l.isFragment = false) (binding : l.binding? = some s)
      (failed : (r.expandLayer l s scope).result = .error cause) (member : child ∈ l.children)
      (below : Meets r child scope n around) : Meets r l scope n around

/-- Where a clone of the layer fails with a violation, no other clone of it fails otherwise. -/
def FailsAlike (r : Resolver) (l : Layer) (scope : Option Given) : Prop :=
  ∀ s ∈ l.binding?, ∀ selection, (r.select l.id s scope).result = .ok selection →
    ∀ i ∈ selection.items, ∀ violation, (r.cloneLayer l selection.fields i).result =
      .error violation →
      violation.isViolation = true → ∀ j ∈ selection.items, ∀ cause,
        (r.cloneLayer l selection.fields j).result = .error cause → cause.isViolation = true

variable {r : Resolver} {cause : Failure}

theorem Meets.mem_preorder {l n : Layer} {scope around : Option Given}
    (meets : r.Meets l scope n around) : n ∈ preorder l := by
  induction meets with
  | here => exact mem_preorder_iff.mpr (.inl rfl)
  | unbound _ _ member _ ih =>
    exact mem_preorder_iff.mpr (.inr (mem_preorderForest_iff.mpr ⟨_, member, ih⟩))
  | item _ _ _ _ member _ ih =>
    exact mem_preorder_iff.mpr (.inr (mem_preorderForest_iff.mpr ⟨_, member, ih⟩))
  | kept _ _ _ member _ ih =>
    exact mem_preorder_iff.mpr (.inr (mem_preorderForest_iff.mpr ⟨_, member, ih⟩))

theorem resolveLayer_of_binding {l : Layer} {s : CollectionSource} (plain : l.isFragment = false)
    (binding : l.binding? = some s) (scope : Option Given) :
    (r.resolveLayer l scope).result =
      match (r.expandLayer l s scope).result with
      | .ok fragment => .ok fragment
      | .error cause =>
        if cause.isViolation then .error cause
        else Layer.mk l.toElement <$> (r.resolveForest l.children scope).result := by
  obtain ⟨e, children⟩ := l
  have free : e.isFragment = false := plain
  have source : e.binding? = some s := binding
  simp only [resolveLayer, resolveElement, free, source, Bool.false_eq_true, ↓reduceIte]
  unfold Outcome.orElse
  cases done : (r.expandLayer ⟨e, children⟩ s scope).result with
  | ok fragment => simp only [done]
  | error cause =>
    cases violation : cause.isViolation with
    | true => simp only [done, violation, ↓reduceIte]
    | false =>
      simp only [violation, Bool.false_eq_true, ↓reduceIte, Outcome.result_bind, keepLayer,
        Outcome.result_map]
      rfl

theorem resolveForest_fails_of_mem {ls : List Layer} {l : Layer} {scope : Option Given}
    (member : l ∈ ls) (failed : (r.resolveLayer l scope).result = .error cause) : ∃ failure,
      (r.resolveForest ls scope).result = .error failure := by
  cases resolved : (r.resolveForest ls scope).result with
  | error failure => exact ⟨failure, rfl⟩
  | ok ds =>
    obtain ⟨before, after, rfl⟩ := List.append_of_mem member
    rw [resolveForest_around, failed] at resolved
    simp only [exceptBind_ok_iff] at resolved
    simp at resolved

mutual
theorem resolveLayer_meets (calm : r.source.Calm)
    (standard : r.evaluator = Visibility.Expression.eval) :
    ∀ (l : Layer) {scope : Option Given}, (r.resolveLayer l scope).result = .error cause →
      ∃ n around, r.Meets l scope n around ∧ n.isFragment = true ∧ cause = .fragmentInTree n.id
  | ⟨e, children⟩, scope => by
    intro failed
    have inside : ∀ scope, (r.resolveForest children scope).result = .error cause →
        ∃ child ∈ children, ∃ n around, r.Meets child scope n around ∧ n.isFragment = true ∧
          cause = .fragmentInTree n.id :=
      fun scope below => resolveForest_meets calm standard children below
    cases plain : e.isFragment with
    | true =>
      simp only [resolveLayer, resolveElement, plain, ↓reduceIte, Outcome.result_fail,
        Except.error.injEq] at failed
      exact ⟨⟨e, children⟩, scope, .here, plain, failed.symm⟩
    | false =>
      cases binding : e.binding? with
      | none =>
        simp only [resolveLayer, resolveElement, plain, binding, Bool.false_eq_true, ↓reduceIte]
          at failed
        obtain ⟨child, member, n, around, meets, fragment⟩ :=
          inside scope (Outcome.map_error_iff.mp failed)
        exact ⟨n, around, .unbound plain binding member meets, fragment⟩
      | some s =>
        rw [resolveLayer_of_binding plain binding] at failed
        cases expansion : (r.expandLayer ⟨e, children⟩ s scope).result with
        | ok fragment => simp [expansion] at failed
        | error first =>
          rw [expansion] at failed
          cases violation : first.isViolation with
          | false =>
            simp only [violation, Bool.false_eq_true, ↓reduceIte] at failed
            obtain ⟨child, member, n, around, meets, fragment⟩ :=
              inside scope (exceptMap_error_iff.mp failed)
            exact ⟨n, around, .kept plain binding expansion member meets, fragment⟩
          | true =>
            simp only [violation, ↓reduceIte, Except.error.injEq] at failed
            subst failed
            -- The binding lets violations through only, and none comes from what it selects or
            -- injects.
            rcases expandBinding_error_iff.mp expansion with selection | ⟨selection, selected, rest⟩
            · simp [select_harmless calm standard selection] at violation
            · rcases rest with clones | ⟨_, _, rfl⟩
              · obtain ⟨o, listed, fails⟩ := Outcome.all_error clones
                obtain ⟨item, shown, rfl⟩ := List.mem_map.mp listed
                rcases clone_error calm fails with harmless | below
                · simp [harmless] at violation
                · obtain ⟨child, member, n, around, meets, fragment⟩ := inside _ below
                  exact ⟨n, around, .item plain binding selected shown member meets, fragment⟩
              · simp [Failure.isViolation] at violation

theorem resolveForest_meets (calm : r.source.Calm)
    (standard : r.evaluator = Visibility.Expression.eval) :
    ∀ (ls : List Layer) {scope : Option Given}, (r.resolveForest ls scope).result = .error cause →
      ∃ l ∈ ls, ∃ n around, r.Meets l scope n around ∧ n.isFragment = true ∧
        cause = .fragmentInTree n.id
  | [], scope => by
    intro failed
    simp [resolveForest] at failed
  | l :: ls, scope => by
    intro failed
    simp only [resolveForest] at failed
    rcases Outcome.both_error_iff.mp (Outcome.map_error_iff.mp failed) with first | ⟨_, later⟩
    · obtain ⟨n, around, fragment⟩ := resolveLayer_meets calm standard l first
      exact ⟨l, List.mem_cons_self, n, around, fragment⟩
    · obtain ⟨l', member, fragment⟩ := resolveForest_meets calm standard ls later
      exact ⟨l', List.mem_cons_of_mem l member, fragment⟩
end

/-- Over a calm source, layers fail to be resolved only where a fragment stands in them. -/
theorem resolveForest_error (calm : r.source.Calm)
    (standard : r.evaluator = Visibility.Expression.eval) (ls : List Layer)
    {scope : Option Given} (failed : (r.resolveForest ls scope).result = .error cause) :
    ∃ n ∈ preorderForest ls, n.isFragment = true ∧ cause = .fragmentInTree n.id := by
  obtain ⟨l, member, n, _, meets, fragment⟩ := resolveForest_meets calm standard ls failed
  exact ⟨n, mem_preorderForest_iff.mpr ⟨l, member, meets.mem_preorder⟩, fragment⟩

theorem expandLayer_violates {l : Layer} {s : CollectionSource} {scope : Option Given}
    {selection : Selection} {i : Item}
    (alike : r.FailsAlike l scope) (binding : l.binding? = some s)
    (selected : (r.select l.id s scope).result = .ok selection) (shown : i ∈ selection.items)
    (below : (r.resolveForest l.children (some (.ofValues i.values))).result = .error cause) :
    ∃ failure, (r.expandLayer l s scope).result = .error failure ∧ failure.isViolation = true := by
  have violation := resolveForest_violates l.children below
  have cloning : (r.cloneLayer l selection.fields i).result = .error cause :=
    Outcome.bind_error_iff.mpr (.inl below)
  cases clones : (Outcome.all (selection.items.map (r.cloneLayer l selection.fields))).result with
  | error failure =>
    have expansion : (r.expandLayer l s scope).result = .error failure :=
      expandBinding_error_iff.mpr (.inr ⟨selection, selected, .inl clones⟩)
    obtain ⟨_, listed, fails⟩ := Outcome.all_error clones
    obtain ⟨j, also, rfl⟩ := List.mem_map.mp listed
    exact ⟨failure, expansion,
      alike s binding selection selected i shown cause cloning violation j also failure fails⟩
  | ok made =>
    have each := List.forall₂_map_left_iff.mp (Outcome.all_ok_iff.mp clones)
    obtain ⟨_, _, done⟩ := forall₂_mem_right (List.Forall₂.flip each) shown
    simp [cloning] at done

/-- A layer whose walk comes upon a fragment is not resolved, if all clones on the way fail alike.
    -/
theorem Meets.resolveLayer_fails {l n : Layer} {scope around : Option Given}
    (meets : r.Meets l scope n around) (fragment : n.isFragment = true)
    (alike : ∀ m between, r.Meets l scope m between → r.FailsAlike m between) :
    ∃ failure, (r.resolveLayer l scope).result = .error failure := by
  induction meets with
  | @here l scope =>
    obtain ⟨e, children⟩ := l
    have left : e.isFragment = true := fragment
    exact ⟨.fragmentInTree e.id, by simp [resolveLayer, resolveElement, left]⟩
  | @unbound l child _ scope _ plain free member below ih =>
    obtain ⟨_, failed⟩ := ih fragment fun m between later =>
      alike m between (.unbound plain free member later)
    obtain ⟨failure, inside⟩ := resolveForest_fails_of_mem member failed
    have unscoped : l.hasOwnScope = false := by
      simp [Element.hasOwnScope, Element.isBound, plain, free]
    obtain ⟨e, children⟩ := l
    refine ⟨failure, ?_⟩
    rw [resolveLayer_plain unscoped]
    exact Outcome.map_error_iff.mpr inside
  | @item l child _ scope _ s selection i plain binding selected shown member below ih =>
    obtain ⟨_, failed⟩ := ih fragment fun m between later =>
      alike m between (.item plain binding selected shown member later)
    obtain ⟨_, inside⟩ := resolveForest_fails_of_mem member failed
    obtain ⟨failure, expansion, violation⟩ :=
      expandLayer_violates (alike l scope .here) binding selected shown inside
    exact ⟨failure, by simp [resolveLayer_of_binding plain binding, expansion, violation]⟩
  | @kept l child _ scope _ s cause plain binding expansion member below ih =>
    obtain ⟨_, failed⟩ := ih fragment fun m between later =>
      alike m between (.kept plain binding expansion member later)
    obtain ⟨failure, inside⟩ := resolveForest_fails_of_mem member failed
    rw [resolveLayer_of_binding plain binding, expansion]
    cases violation : cause.isViolation with
    | true => exact ⟨cause, by simp [violation]⟩
    | false => exact ⟨failure, by simp [violation, inside, Functor.map, Except.map]⟩

end Resolver
end PageLayers
