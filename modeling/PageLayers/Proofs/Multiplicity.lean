import PageLayers.Proofs.Carried

/-!
How many nodes a resolution makes of one layer. A layer is kept, or it becomes a fragment and one
clone for each item that its binding shows. Whatever lies within a bound layer is made anew for each
clone; nothing else is, so a kind of elements of which a layer makes at most one occurs no more
often in a resolved tree than the layers that it is made of do in the stored one.
-/

namespace PageLayers

theorem eq_of_countP_le_one {α : Type} {p : α → Bool} {xs : List α} (few : xs.countP p ≤ 1)
    {x y : α} (hasX : x ∈ xs) (isX : p x = true) (hasY : y ∈ xs) (isY : p y = true) : x = y := by
  have xFound := List.mem_filter.mpr ⟨hasX, isX⟩
  have yFound := List.mem_filter.mpr ⟨hasY, isY⟩
  rw [List.countP_eq_length_filter] at few
  cases matching : xs.filter p with
  | nil => simp [matching] at xFound
  | cons first rest =>
    rw [matching, List.length_cons] at few
    have alone : rest = [] := List.eq_nil_of_length_eq_zero (by omega)
    rw [matching, alone, List.mem_singleton] at xFound yFound
    rw [xFound, yFound]

namespace Resolver

def ClonesTo (e : Element) (inner : Option Given → Outcome (List Layer)) (item : Item)
    (clone : Layer) : Prop :=
  ∃ slug values ds, (inner (some (.ofValues item.values))).result = .ok ds ∧
    (cloneElement e item slug values).SameButSlots clone.toElement ∧
    Layer.fillForest (SlotValue.inject values) ds = .ok clone.children

/-- What an element becomes, given how its children are resolved. -/
inductive Becomes (r : Resolver) (e : Element) (inner : Option Given → Outcome (List Layer))
    (scope : Option Given) :
    Layer → Prop
  | kept (ds : List Layer) (below : (inner scope).result = .ok ds) : Becomes r e inner scope ⟨e, ds⟩
  | expanded (s : CollectionSource) (selection : Selection) (clones : List Layer)
      (binding : e.binding? = some s)
      (selected : (r.select e.id s scope).result = .ok selection)
      (cloned : List.Forall₂ (ClonesTo e inner) selection.items clones) :
      Becomes r e inner scope
        ⟨fragmentElement e (selection.window.pageMeta e.id s.id selection.total), clones⟩

variable {r : Resolver} {e : Element} {inner : Option Given → Outcome (List Layer)}
    {scope : Option Given} {d : Layer}

theorem cloneElement_hasOwnScope (plain : e.isFragment = false) (item : Item) (slug : Option String)
    (values : Values) : (cloneElement e item slug values).hasOwnScope = false := by
  have fragment : (cloneElement e item slug values).isFragment = false := plain
  rw [Element.hasOwnScope, fragment]
  rfl

theorem exists_of_clone (plain : e.isFragment = false) {fields : List Field} {item : Item}
    (cloned : (r.clone e inner fields item).result = .ok d) :
    ∃ values ds, (r.enhance item.values fields).result = .ok values ∧
      (inner (some (.ofValues item.values))).result = .ok ds ∧
      (cloneElement e item (item.slug? fields r.settings.slugFieldKey) values).SameButSlots
        d.toElement ∧
      Layer.fillForest (SlotValue.inject values) ds = .ok d.children := by
  simp only [clone, Outcome.bind_ok_iff] at cloned
  obtain ⟨ds, below, values, enhanced, injected⟩ := cloned
  have own := cloneElement_hasOwnScope plain item (item.slug? fields r.settings.slugFieldKey) values
  obtain ⟨o, cs, filled, inside, rfl⟩ :=
    (Layer.fill_ok_iff own).mp (Layer.inject_ok_iff.mp injected).1
  exact ⟨values, ds, enhanced, below, (Element.fill_ok_iff.mp filled).2, inside⟩

theorem clonesTo_of_clone (plain : e.isFragment = false) {fields : List Field} {item : Item}
    (cloned : (r.clone e inner fields item).result = .ok d) : ClonesTo e inner item d := by
  obtain ⟨values, ds, _, below, same, filled⟩ := exists_of_clone plain cloned
  exact ⟨_, values, ds, below, same, filled⟩

theorem becomes_of_resolved (resolved : (r.resolveElement e inner scope).result = .ok d) :
    e.isFragment = false ∧ r.Becomes e inner scope d := by
  have keep : ∀ d, (keepLayer e inner scope).result = .ok d → r.Becomes e inner scope d := by
    intro d kept
    obtain ⟨ds, below, rfl⟩ := Outcome.map_ok_iff.mp kept
    exact .kept ds below
  unfold resolveElement at resolved
  split at resolved
  · simp at resolved
  · rename_i plain
    rw [Bool.not_eq_true] at plain
    refine ⟨plain, ?_⟩
    split at resolved
    · exact keep d resolved
    · rename_i s binding
      rcases Outcome.orElse_ok_iff.mp resolved with expanded | ⟨_, _, _, recovered⟩
      · obtain ⟨selection, clones, selected, all, -, rfl⟩ := expandBinding_ok_iff.mp expanded
        refine .expanded s selection clones binding selected ?_
        have each := List.forall₂_map_left_iff.mp (Outcome.all_ok_iff.mp all)
        exact each.imp fun item clone cloned => clonesTo_of_clone plain cloned
      · obtain ⟨_, _, kept⟩ := Outcome.bind_ok_iff.mp recovered
        exact keep d kept

end Resolver

namespace Layer

def held (layers : List Layer) : List Layer :=
  ((preorderForest layers).filter (·.isBound)).flatMap fun b => preorderForest b.children

theorem mem_held_iff {n : Layer} {layers : List Layer} :
    n ∈ held layers ↔ ∃ b ∈ preorderForest layers, b.isBound = true ∧
    n ∈ preorderForest b.children := by
  simp [held, and_assoc]

mutual
theorem preorder_trans {n b : Layer} (within : n ∈ preorderForest b.children) : ∀ l :
    Layer, b ∈ preorder l →
    n ∈ preorder l
  | ⟨e, children⟩ => by
    intro member
    rcases mem_preorder_iff.mp member with rfl | below
    · exact mem_preorder_iff.mpr (.inr within)
    · exact mem_preorder_iff.mpr (.inr (preorderForest_trans within children below))

theorem preorderForest_trans {n b : Layer} (within : n ∈ preorderForest b.children) : ∀ ls :
    List Layer,
    b ∈ preorderForest ls → n ∈ preorderForest ls
  | [] => by simp [preorderForest]
  | l :: ls => by
    intro member
    rcases mem_preorderForest_cons.mp member with first | later
    · exact mem_preorderForest_cons.mpr (.inl (preorder_trans within l first))
    · exact mem_preorderForest_cons.mpr (.inr (preorderForest_trans within ls later))
end

theorem mem_preorderForest_of_held {n : Layer} {layers : List Layer} (within : n ∈ held layers) :
    n ∈ preorderForest layers := by
  obtain ⟨b, member, _, inside⟩ := mem_held_iff.mp within
  exact preorderForest_trans inside layers member

theorem held_singleton (e : Element) (children : List Layer) :
    held [⟨e, children⟩] = (if e.isBound then preorderForest children else []) ++
      held children := by
  simp only [held, preorderForest, preorder, List.append_nil, List.filter_cons]
  split <;> rfl

theorem held_cons (l : Layer) (ls : List Layer) : held (l :: ls) = held [l] ++ held ls := by
  simp [held, preorderForest]

def countOf (kind : Element → Bool) (layers : List Layer) : Nat :=
  (preorderForest layers).countP fun n => kind n.toElement

theorem countOf_singleton (kind : Element → Bool) (e : Element) (children : List Layer) :
    countOf kind [⟨e, children⟩] = (if kind e then 1 else 0) + countOf kind children := by
  simp [countOf, preorderForest, preorder, List.countP_cons, Nat.add_comm]

theorem countOf_cons (kind : Element → Bool) (l : Layer) (ls : List Layer) :
    countOf kind (l :: ls) = countOf kind [l] + countOf kind ls := by
  simp [countOf, preorderForest]

theorem countOf_eq_zero_iff {kind : Element → Bool} {layers : List Layer} :
    countOf kind layers = 0 ↔ ∀ n ∈ preorderForest layers, kind n.toElement = false := by
  simp [countOf, List.countP_eq_zero]

theorem countOf_eq_of_childless {kind : Element → Bool} {layers : List Layer}
    (within : ∀ l ∈ layers, countOf kind l.children = 0) :
    countOf kind layers = (layers.map (·.toElement)).countP kind := by
  induction layers with
  | nil => rfl
  | cons l ls ih =>
    obtain ⟨e, children⟩ := l
    have here : countOf kind children = 0 := within _ List.mem_cons_self
    rw [countOf_cons, countOf_singleton, here,
      ih fun l member => within l (List.mem_cons_of_mem _ member), List.map_cons, List.countP_cons]
    exact Nat.add_comm _ _

end Layer

namespace Resolver

/-- Elements of one kind are made of elements of another kind only, and of each of these one is made
    at most. -/
structure MakesOnce (r : Resolver) (origin kind : Element → Bool) : Prop where
  filled : ∀ e o, e.SameButSlots o → kind o = kind e
  kept : ∀ e, e.isFragment = false → kind e = true → origin e = true
  expanded : ∀ e s scope selection clones, e.isFragment = false → e.binding? = some s →
    (r.select e.id s scope).result = .ok selection →
    List.Forall₂ (fun item o => ∃ slug values, (cloneElement e item slug values).SameButSlots o)
      selection.items clones →
      (fragmentElement e (selection.window.pageMeta e.id s.id selection.total) :: clones).countP
        kind ≤
        if origin e then 1 else 0

variable {r : Resolver} {origin kind : Element → Bool}

open Layer

/-- In the place of a bound layer that holds nothing of the kind, at most one node of the kind is
    made. -/
theorem Becomes.countOf_le (once : r.MakesOnce origin kind) {e : Element}
    (plain : e.isFragment = false)
    {inner : Option Given → Outcome (List Layer)} {scope : Option Given} {d : Layer}
    {children : List Layer}
    (below : ∀ scope ds, (inner scope).result = .ok ds → countOf kind ds ≤ countOf origin children)
    (barren : e.isBound = true → countOf origin children = 0)
    (becomes : r.Becomes e inner scope d) : countOf kind [d] ≤ countOf origin [⟨e, children⟩] := by
  rw [countOf_singleton origin]
  cases becomes with
  | kept ds resolved =>
    rw [countOf_singleton]
    have inside := below scope ds resolved
    have here : (if kind e then 1 else 0) ≤ if origin e then 1 else 0 := by
      by_cases made : kind e = true
      · simp [made, once.kept e plain made]
      · simp [made]
    exact Nat.add_le_add here inside
  | expanded s selection clones binding selected cloned =>
    have bound : e.isBound = true := by rw [Element.isBound, binding]; rfl
    -- Each clone repeats the children, so only the fragment and the clones themselves may be of the
    -- kind.
    have within : ∀ clone ∈ clones, countOf kind clone.children = 0 := by
      intro clone member
      obtain ⟨item, _, slug, values, ds, resolved, _, filled⟩ := forall₂_mem_right cloned member
      have none : countOf kind ds = 0 := Nat.le_zero.mp (barren bound ▸ below _ ds resolved)
      rw [countOf_eq_zero_iff] at none ⊢
      refine fillForest_keeps (P := fun o => kind o = false) ?_ ds none filled
      intro e o same absent
      rw [once.filled e o same, absent]
    have elements :
      List.Forall₂ (fun item o => ∃ slug values, (cloneElement e item slug values).SameButSlots o)
        selection.items (clones.map (·.toElement)) := by
      rw [List.forall₂_map_right_iff]
      refine cloned.imp ?_
      rintro item clone ⟨slug, values, _, _, same, _⟩
      exact ⟨slug, values, same⟩
    have atMost := once.expanded e s scope selection _ plain binding selected elements
    rw [List.countP_cons] at atMost
    rw [countOf_singleton, countOf_eq_of_childless within]
    omega

mutual
theorem resolveLayer_countOf_le (once : r.MakesOnce origin kind) : ∀ (l : Layer)
    {scope : Option Given} {d : Layer},
    (∀ n ∈ held [l], origin n.toElement = false) → (r.resolveLayer l scope).result = .ok d →
      countOf kind [d] ≤ countOf origin [l]
  | ⟨e, children⟩, scope, d => by
    intro barren resolved
    rw [held_singleton, List.forall_mem_append] at barren
    obtain ⟨own, inside⟩ := barren
    obtain ⟨plain, becomes⟩ := becomes_of_resolved resolved
    refine becomes.countOf_le once plain
      (fun scope ds done => resolveForest_countOf_le once children inside done) ?_
    intro bound
    rw [if_pos bound] at own
    exact countOf_eq_zero_iff.mpr own

theorem resolveForest_countOf_le (once : r.MakesOnce origin kind) :
    ∀ (ls : List Layer) {scope : Option Given} {ds : List Layer},
      (∀ n ∈ held ls, origin n.toElement = false) →
      (r.resolveForest ls scope).result = .ok ds → countOf kind ds ≤ countOf origin ls
  | [], scope, ds => by
    intro _ resolved
    simp only [resolveForest, Outcome.result_pure, Except.ok.injEq] at resolved
    subst resolved
    exact Nat.le_refl 0
  | l :: ls, scope, ds => by
    intro barren resolved
    rw [held_cons, List.forall_mem_append] at barren
    simp only [resolveForest] at resolved
    obtain ⟨⟨d, rest⟩, done, rfl⟩ := Outcome.map_ok_iff.mp resolved
    obtain ⟨first, others⟩ := Outcome.both_ok_iff.mp done
    rw [countOf_cons kind, countOf_cons origin]
    exact Nat.add_le_add (resolveLayer_countOf_le once l barren.1 first)
      (resolveForest_countOf_le once ls barren.2 others)
end

theorem not_made (once : r.MakesOnce origin kind) {layers shown : List Layer} {scope : Option Given}
    (none : ∀ l ∈ preorderForest layers, origin l.toElement = false)
    (resolved : (r.resolveForest layers scope).result = .ok shown) :
    ∀ n ∈ preorderForest shown, kind n.toElement = false := by
  have barren : ∀ n ∈ held layers, origin n.toElement = false := fun n within =>
    none n (mem_preorderForest_of_held within)
  have few := resolveForest_countOf_le once layers barren resolved
  rw [countOf_eq_zero_iff.mpr none] at few
  exact countOf_eq_zero_iff.mp (Nat.le_zero.mp few)

end Resolver
end PageLayers
