import PageLayers.Layer.Components
import PageLayers.Proofs.Bindings
import PageLayers.Proofs.Injection
import PageLayers.Proofs.Tree

/-!
What a pass carries over from the elements that it is given to those of the tree that it makes of
them. Injection changes slots only, the expansion of components brings nothing but the components'
own layers, and the resolution of bindings keeps an element or makes fragments and clones of it.
-/

namespace PageLayers

theorem exceptMapM_ok_iff {α β : Type} {f : α → Except Failure β} {xs : List α} {ys : List β} :
    xs.mapM f = .ok ys ↔ List.Forall₂ (fun x y => f x = .ok y) xs ys := by
  induction xs generalizing ys with
  | nil => cases ys <;> simp [exceptPure_ok_iff]
  | cons x xs ih =>
    rw [List.mapM_cons]
    simp only [exceptBind_ok_iff, exceptPure_ok_iff, ih, List.forall₂_cons_left_iff]
    constructor
    · rintro ⟨y, made, rest, others, rfl⟩
      exact ⟨y, rest, made, others, rfl⟩
    · rintro ⟨y, rest, made, others, rfl⟩
      exact ⟨y, made, rest, others, rfl⟩

namespace Layer
variable {P : Element → Prop} {filler : Filler}

mutual
theorem fill_keeps (filled : ∀ e o, e.SameButSlots o → P e → P o) : ∀ (l : Layer) {d : Layer},
    (∀ n ∈ preorder l, P n.toElement) → fill filler l = .ok d → ∀ n ∈ preorder d, P n.toElement
  | ⟨e, children⟩, d => by
    intro kept fills
    cases own : e.hasOwnScope with
    | true =>
      rw [fill_own own, Except.ok.injEq] at fills
      exact fills ▸ kept
    | false =>
      obtain ⟨here, inside⟩ := forall_preorder_iff.mp kept
      obtain ⟨o, ds, first, rest, rfl⟩ := (fill_ok_iff own).mp fills
      have element : P o := filled e o (Element.fill_ok_iff.mp first).2 here
      exact forall_preorder_iff.mpr ⟨element, fillForest_keeps filled children inside rest⟩

theorem fillForest_keeps (filled : ∀ e o, e.SameButSlots o → P e → P o) : ∀ (ls : List Layer)
    {ds : List Layer},
    (∀ n ∈ preorderForest ls, P n.toElement) → fillForest filler ls = .ok ds →
      ∀ n ∈ preorderForest ds, P n.toElement
  | [], ds => by
    intro kept fills
    simp only [fillForest, Except.ok.injEq] at fills
    exact fills ▸ kept
  | l :: ls, ds => by
    intro kept fills
    obtain ⟨head, tail⟩ := forall_preorderForest_cons.mp kept
    obtain ⟨d, rest, first, others, rfl⟩ := fillForest_cons_ok_iff.mp fills
    exact forall_preorderForest_cons.mpr
      ⟨fill_keeps filled l head first, fillForest_keeps filled ls tail others⟩
end

end Layer

namespace Component
variable {P : Element → Prop} {known : List Component}

theorem mem_of_ofInstance? {e : Element} {c : Component} (found : ofInstance? known e = some c) :
    c ∈ known := by
  unfold ofInstance? at found
  split at found
  · simp at found
  · split at found
    · simp at found
    · exact List.mem_reverse.mp (List.mem_of_find?_eq_some found)

theorem expandLayer_instance_ok_iff {room : Nat} {chain : List String} {l d : Layer} {c : Component}
    (found : ofInstance? known l.toElement = some c) :
    expandLayer known (room + 1) chain l = .ok d ↔ d.toElement = l.toElement ∧ c.id ∉ chain ∧
      c.layers.mapM (expandLayer known room (chain ++ [c.id])) = .ok d.children := by
  obtain ⟨e, children⟩ := l
  obtain ⟨o, inside⟩ := d
  unfold expandLayer
  simp only [found]
  split
  · rename_i again
    simp_all
  · rename_i fresh
    simp only [exceptBind_ok_iff, exceptPure_ok_iff, Layer.mk.injEq]
    constructor
    · rintro ⟨ds, made, rfl, rfl⟩
      exact ⟨rfl, by simpa using fresh, made⟩
    · rintro ⟨rfl, _, made⟩
      exact ⟨inside, made, rfl, rfl⟩

theorem expandLayer_plain_ok_iff {room : Nat} {chain : List String} {l d : Layer}
    (plain : ofInstance? known l.toElement = none) :
    expandLayer known (room + 1) chain l = .ok d ↔ d.toElement = l.toElement ∧
      l.children.mapM (expandLayer known room chain) = .ok d.children := by
  obtain ⟨e, children⟩ := l
  obtain ⟨o, inside⟩ := d
  unfold expandLayer
  simp only [plain, exceptBind_ok_iff, exceptPure_ok_iff, Layer.mk.injEq]
  constructor
  · rintro ⟨ds, made, rfl, rfl⟩
    exact ⟨rfl, made⟩
  · rintro ⟨rfl, made⟩
    exact ⟨inside, made, rfl, rfl⟩

theorem mapM_keeps {f : Layer → Except Failure Layer} {ls ds : List Layer}
    (each : ∀ l ∈ ls, ∀ d, f l = .ok d → ∀ n ∈ Layer.preorder d, P n.toElement)
    (made : ls.mapM f = .ok ds) : ∀ n ∈ Layer.preorderForest ds, P n.toElement := by
  intro n inside
  obtain ⟨d, member, below⟩ := Layer.mem_preorderForest_iff.mp inside
  obtain ⟨l, root, makes⟩ := forall₂_mem_right (exceptMapM_ok_iff.mp made) member
  exact each l root d makes n below

theorem expandLayer_keeps
    (stored : ∀ c ∈ known, ∀ n ∈ Layer.preorderForest c.layers, P n.toElement) (room : Nat) :
    ∀ (chain : List String) (l : Layer) {d : Layer}, (∀ n ∈ Layer.preorder l, P n.toElement) →
      expandLayer known room chain l = .ok d → ∀ n ∈ Layer.preorder d, P n.toElement := by
  induction room with
  | zero => simp [expandLayer]
  | succ room ih =>
    rintro chain ⟨e, children⟩ ⟨o, ds⟩ kept expanded
    obtain ⟨here, inside⟩ := Layer.forall_preorder_iff.mp kept
    cases found : ofInstance? known e with
    | some c =>
      obtain ⟨rfl, _, made⟩ := (expandLayer_instance_ok_iff found).mp expanded
      refine Layer.forall_preorder_iff.mpr ⟨here, mapM_keeps (fun l root d => ?_) made⟩
      exact ih _ l fun n below =>
        stored c (mem_of_ofInstance? found) n (Layer.mem_preorderForest_iff.mpr ⟨l, root, below⟩)
    | none =>
      obtain ⟨rfl, made⟩ := (expandLayer_plain_ok_iff found).mp expanded
      refine Layer.forall_preorder_iff.mpr ⟨here, mapM_keeps (fun l root d => ?_) made⟩
      exact ih _ l fun n below => inside n (Layer.mem_preorderForest_iff.mpr ⟨l, root, below⟩)

theorem expand_keeps (stored : ∀ c ∈ known, ∀ n ∈ Layer.preorderForest c.layers, P n.toElement)
    {ls ds : List Layer} (kept : ∀ n ∈ Layer.preorderForest ls, P n.toElement)
    (expanded : expand known ls = .ok ds) : ∀ n ∈ Layer.preorderForest ds, P n.toElement := by
  unfold expand at expanded
  split at expanded
  · rw [Except.ok.injEq] at expanded
    exact expanded ▸ kept
  · refine mapM_keeps (fun l root d => ?_) expanded
    exact expandLayer_keeps stored _ _ l fun n below =>
      kept n (Layer.mem_preorderForest_iff.mpr ⟨l, root, below⟩)

end Component

namespace Resolver

/-- What resolution carries over: it holds of the elements that are made of elements with a
    property. -/
structure Carries (Q P : Element → Prop) : Prop where
  kept : ∀ e, Q e → P e
  fragment : ∀ e pagination, Q e → P (fragmentElement e pagination)
  clone : ∀ e item slug values, Q e → P (cloneElement e item slug values)
  filled : ∀ e o, e.SameButSlots o → P e → P o

/-- What a resolution makes of elements with a property. A clone is one for an item that the binding
    of its element shows, and has the slug of the item. -/
structure Makes (r : Resolver) (Q P : Element → Prop) : Prop where
  kept : ∀ e, Q e → P e
  fragment : ∀ e pagination, Q e → P (fragmentElement e pagination)
  clone : ∀ e s scope selection item values, Q e → e.binding? = some s →
    (r.select e.id s scope).result = .ok selection →
    item ∈ selection.items →
      P (cloneElement e item (item.slug? selection.fields r.settings.slugFieldKey) values)
  filled : ∀ e o, e.SameButSlots o → P e → P o

variable {Q P : Element → Prop} {r : Resolver}

theorem Carries.makes (carries : Carries Q P) : r.Makes Q P where
  kept := carries.kept
  fragment := carries.fragment
  clone e _ _ _ item values here _ _ _ := carries.clone e item _ values here
  filled := carries.filled

theorem keepLayer_keeps {e : Element} {inner : Option Given → Outcome (List Layer)} (here : P e)
    (inside : ∀ scope ds, (inner scope).result = .ok ds → ∀ n ∈ Layer.preorderForest ds,
      P n.toElement)
    {scope : Option Given} {d : Layer} (resolved : (keepLayer e inner scope).result = .ok d) :
    ∀ n ∈ Layer.preorder d, P n.toElement := by
  obtain ⟨ds, below, rfl⟩ := Outcome.map_ok_iff.mp resolved
  exact Layer.forall_preorder_iff.mpr ⟨here, inside scope ds below⟩

theorem clone_keeps (filled : ∀ e o, e.SameButSlots o → P e → P o) {e : Element}
    {inner : Option Given → Outcome (List Layer)} {fields : List Field} {item : Item}
    (here : ∀ values, P (cloneElement e item (item.slug? fields r.settings.slugFieldKey) values))
    (inside : ∀ scope ds, (inner scope).result = .ok ds → ∀ n ∈ Layer.preorderForest ds,
      P n.toElement)
    {d : Layer} (resolved : (r.clone e inner fields item).result = .ok d) : ∀ n ∈ Layer.preorder d,
      P n.toElement := by
  simp only [clone, Outcome.bind_ok_iff] at resolved
  obtain ⟨ds, below, values, _, injected⟩ := resolved
  obtain ⟨fills, _⟩ := Layer.inject_ok_iff.mp injected
  exact Layer.fill_keeps filled _ (Layer.forall_preorder_iff.mpr ⟨here values, inside _ ds below⟩)
    fills

theorem expandBinding_keeps (makes : r.Makes Q P) {e : Element} {s : CollectionSource}
    {inner : Option Given → Outcome (List Layer)} (here : Q e) (binding : e.binding? = some s)
    (inside : ∀ scope ds, (inner scope).result = .ok ds → ∀ n ∈ Layer.preorderForest ds,
      P n.toElement)
    {scope : Option Given} {d : Layer}
    (resolved : (r.expandBinding e s inner scope).result = .ok d) :
    ∀ n ∈ Layer.preorder d, P n.toElement := by
  obtain ⟨selection, clones, selected, all, -, rfl⟩ := expandBinding_ok_iff.mp resolved
  refine Layer.forall_preorder_iff.mpr ⟨makes.fragment e _ here, ?_⟩
  intro n member
  obtain ⟨clone, isClone, inClone⟩ := Layer.mem_preorderForest_iff.mp member
  obtain ⟨o, listed, result⟩ := forall₂_mem_right (Outcome.all_ok_iff.mp all) isClone
  obtain ⟨item, shown, rfl⟩ := List.mem_map.mp listed
  have element := fun values =>
    makes.clone e s scope selection item values here binding selected shown
  exact clone_keeps makes.filled element inside result n inClone

mutual
theorem resolveLayer_keeps (makes : r.Makes Q P) : ∀ (l : Layer) {scope : Option Given} {d : Layer},
    (∀ n ∈ Layer.preorder l, Q n.toElement) → (r.resolveLayer l scope).result = .ok d →
      ∀ n ∈ Layer.preorder d, P n.toElement
  | ⟨e, children⟩, scope, d => by
    intro stored resolved
    obtain ⟨here, below⟩ := Layer.forall_preorder_iff.mp stored
    have inside : ∀ scope ds, (r.resolveForest children scope).result = .ok ds →
        ∀ n ∈ Layer.preorderForest ds, P n.toElement :=
      fun scope ds resolved => resolveForest_keeps makes children below resolved
    simp only [resolveLayer, resolveElement] at resolved
    split at resolved
    · simp at resolved
    · split at resolved
      · exact keepLayer_keeps (makes.kept e here) inside resolved
      · rename_i s binding
        rcases Outcome.orElse_ok_iff.mp resolved with expanded | ⟨_, _, _, recovered⟩
        · exact expandBinding_keeps makes here binding inside expanded
        · obtain ⟨_, _, kept⟩ := Outcome.bind_ok_iff.mp recovered
          exact keepLayer_keeps (makes.kept e here) inside kept

theorem resolveForest_keeps (makes : r.Makes Q P) : ∀ (ls : List Layer) {scope : Option Given}
    {ds : List Layer},
    (∀ n ∈ Layer.preorderForest ls, Q n.toElement) → (r.resolveForest ls scope).result = .ok ds →
      ∀ n ∈ Layer.preorderForest ds, P n.toElement
  | [], scope, ds => by
    intro _ resolved
    simp only [resolveForest, Outcome.result_pure, Except.ok.injEq] at resolved
    exact resolved ▸ Layer.forall_preorderForest_nil
  | l :: ls, scope, ds => by
    intro stored resolved
    obtain ⟨head, tail⟩ := Layer.forall_preorderForest_cons.mp stored
    simp only [resolveForest] at resolved
    obtain ⟨⟨d, rest⟩, done, rfl⟩ := Outcome.map_ok_iff.mp resolved
    obtain ⟨first, others⟩ := Outcome.both_ok_iff.mp done
    exact Layer.forall_preorderForest_cons.mpr
      ⟨resolveLayer_keeps makes l head first, resolveForest_keeps makes ls tail others⟩
end

end Resolver
end PageLayers
