import PageLayers.Proofs.Carried
import PageLayers.Store.Repository

/-!
What is left of a layer whose binding fails, and how far the failure reaches. A tree in which the
layer stands is resolved side by side with the one from which it is taken out. Whatever happens to
the binding, the layer ends up bound or a fragment, which no injection enters; so all else comes out
the same.
-/

namespace PageLayers

/-- A layer around a place in a tree: the layers before and after the one that leads there, and what
    it says itself. -/
structure Frame where
  before : List Layer := []
  element : Element
  after : List Layer := []

def plug : List Frame → List Layer → List Layer
  | [], layers => layers
  | f :: fs, layers => f.before ++ ⟨f.element, plug fs layers⟩ :: f.after

theorem exists_plug_cons (first : Layer) {l : Layer} {frames : List Frame}
    {before after : List Layer} :
    ∃ frames' before', first :: plug frames (before ++ l :: after) =
      plug frames' (before' ++ l :: after) := by
  cases frames with
  | nil => exact ⟨[], first :: before, rfl⟩
  | cons f fs => exact ⟨{ f with before := first :: f.before } :: fs, before, rfl⟩

mutual
theorem exists_plug_children {l : Layer} : ∀ (root : Layer), l ∈ Layer.preorder root → l = root ∨
    ∃ frames before after, root.children = plug frames (before ++ l :: after)
  | ⟨e, children⟩ => by
    intro member
    rcases Layer.mem_preorder_iff.mp member with here | below
    · exact Or.inl here
    · exact Or.inr (exists_plug children below)

/-- Every node of a forest stands in a place. -/
theorem exists_plug {l : Layer} : ∀ (layers : List Layer), l ∈ Layer.preorderForest layers →
    ∃ frames before after, layers = plug frames (before ++ l :: after)
  | [] => by
    intro member
    simp [Layer.preorderForest] at member
  | root :: layers => by
    intro member
    rcases Layer.mem_preorderForest_cons.mp member with here | later
    · rcases exists_plug_children root here with rfl | ⟨frames, before, after, below⟩
      · exact ⟨[], [], layers, rfl⟩
      · obtain ⟨e, children⟩ := root
        refine ⟨{ element := e, after := layers } :: frames, before, after, ?_⟩
        rw [plug, ← below]
        rfl
    · obtain ⟨frames, before, after, rfl⟩ := exists_plug layers later
      obtain ⟨frames', before', same⟩ := exists_plug_cons root
      exact ⟨frames', before', after, same⟩
end

def Element.StandsFor (stored shown : Element) : Prop :=
  shown.id = stored.id ∨ shown.id = fragmentId stored.id ∨
  ∃ itemId, shown.id = cloneId stored.id itemId

namespace Resolver

/-- A layer stands among its siblings in the first list; the second list is the same without it.
    Where its binding fails it is as it was stored, and what stands within it is made of its
    children in the scope around it. -/
def SetApart (r : Resolver) (before : List Layer) (l : Layer) (scope : Option Given)
    (present absent : List Layer) : Prop :=
  ∃ xs d ys, xs.length = before.length ∧ present = xs ++ d :: ys ∧ absent = xs ++ ys ∧
    d.hasOwnScope = true ∧
    ∀ s ∈ l.binding?, ∀ cause,
      (r.expandBinding l.toElement s (fun scope => r.resolveForest l.children scope) scope).result =
        .error cause →
      d.toElement = l.toElement ∧ (r.resolveForest l.children scope).result = .ok d.children ∧
        ∀ n ∈ Layer.preorderForest d.children, ∃ m ∈ Layer.preorderForest l.children,
          m.StandsFor n.toElement

def AlikeLayers (r : Resolver) (e : Element) (scope : Option Given)
    (Alike : Option Given → List Layer → List Layer → Prop) (d d' : Layer) : Prop :=
  d.toElement = d'.toElement ∧
    (d.isFragment = false ∧ Alike scope d.children d'.children ∨
      d.isFragment = true ∧ ∃ s selection, e.binding? = some s ∧
      (r.select e.id s scope).result = .ok selection ∧
        List.Forall₂
          (fun clone clone' => clone.toElement = clone'.toElement ∧ ∃ item ∈ selection.items,
            clone.itemId = some item.id ∧
            Alike (some (.ofValues item.values)) clone.children clone'.children)
          d.children d'.children)

/-- Two lists are the same around a place, and in the place they are set apart. -/
def AlikeAround (r : Resolver) (before : List Layer) (l : Layer) :
    List Frame → Option Given → List Layer → List Layer → Prop
  | [], scope, present, absent => r.SetApart before l scope present absent
  | f :: fs, scope, present, absent =>
    ∃ xs d d' ys, xs.length = f.before.length ∧ present = xs ++ d :: ys ∧ absent = xs ++ d' :: ys ∧
      r.AlikeLayers f.element scope (AlikeAround r before l fs) d d'

end Resolver

namespace Follows
variable {before after : Except Failure (List Layer)} {x y : Except Failure Layer} {n : Nat}

theorem beside {S : Layer → Layer → Prop} (sized : ∀ xs, before = .ok xs → xs.length = n)
    (middle : Follows S x y) :
    Follows
      (fun present absent => ∃ xs d d' ys, xs.length = n ∧ present = xs ++ d :: ys ∧
        absent = xs ++ d' :: ys ∧ S d d')
      (do let xs ← before; let d ← x; let ys ← after; return xs ++ d :: ys)
      (do let xs ← before; let d ← y; let ys ← after; return xs ++ d :: ys) := by
  have first : Follows (fun xs xs' => xs = xs' ∧ xs.length = n) before before :=
    same fun xs found => ⟨rfl, sized xs found⟩
  have last : Follows Eq after after := same fun _ _ => rfl
  refine first.bind ?_
  rintro xs _ ⟨rfl, size⟩
  refine middle.bind fun d d' related => last.bind ?_
  rintro ys _ rfl
  exact ⟨_, rfl, xs, d, d', ys, size, rfl, rfl, related⟩

theorem without {P : Layer → Prop} (sized : ∀ xs, before = .ok xs → xs.length = n)
    (violates : ∀ cause, x = .error cause → cause.isViolation = true)
    (holds : ∀ d, x = .ok d → P d) :
    Follows (fun present absent => ∃ xs d ys, xs.length = n ∧ present = xs ++ d :: ys ∧
      absent = xs ++ ys ∧ P d)
      (do let xs ← before; let d ← x; let ys ← after; return xs ++ d :: ys)
      (do let xs ← before; let ys ← after; return xs ++ ys) := by
  have first : Follows (fun xs xs' => xs = xs' ∧ xs.length = n) before before :=
    same fun xs found => ⟨rfl, sized xs found⟩
  have last : Follows Eq after after := same fun _ _ => rfl
  refine first.bind ?_
  rintro xs _ ⟨rfl, size⟩
  cases x with
  | error cause =>
    intro calm
    simp [violates cause rfl] at calm
  | ok d =>
    refine last.bind ?_
    rintro ys _ rfl
    exact ⟨_, rfl, xs, d, ys, size, rfl, rfl, holds d rfl⟩

end Follows

namespace Layer
variable {filler : Filler}

theorem fill_plain {e : Element} {children : List Layer} (plain : e.hasOwnScope = false) :
    fill filler ⟨e, children⟩ =
      (do let o ← e.fill filler; let ds ← fillForest filler children; return ⟨o, ds⟩) := by
  simp [fill, plain]

theorem fillForest_append (xs ys : List Layer) :
    fillForest filler (xs ++ ys) =
      (do let xs ← fillForest filler xs; let ys ← fillForest filler ys; return xs ++ ys) := by
  induction xs with
  | nil =>
    rw [fillForest, List.nil_append]
    cases fillForest filler ys <;> rfl
  | cons x xs ih => simp [fillForest, ih]

theorem fillForest_around (xs : List Layer) (l : Layer) (ys : List Layer) :
    fillForest filler (xs ++ l :: ys) =
      (do
        let xs ← fillForest filler xs
        let d ← fill filler l
        let ys ← fillForest filler ys
        return xs ++ d :: ys) := by
  simp [fillForest_append, fillForest]

theorem fillForest_length : ∀ {ls ds : List Layer}, fillForest filler ls = .ok ds →
    ds.length = ls.length := by
  intro ls
  induction ls with
  | nil =>
    intro ds filled
    simp only [fillForest, Except.ok.injEq] at filled
    simp [← filled]
  | cons l ls ih =>
    intro ds filled
    obtain ⟨d, rest, _, others, rfl⟩ := fillForest_cons_ok_iff.mp filled
    simp [ih others]

theorem forestTokensFit_append (room : Nat) (xs ys : List Layer) :
    forestTokensFit room (xs ++ ys) = (forestTokensFit room xs && forestTokensFit room ys) := by
  induction xs with
  | nil => simp [forestTokensFit]
  | cons x xs ih => simp [forestTokensFit, ih, Bool.and_assoc]

end Layer

namespace Resolver
variable {r : Resolver} {before : List Layer} {l : Layer} {fs : List Frame}

theorem fillForest_alike {filler : Filler} : ∀ (fs : List Frame) {scope : Option Given}
    {present absent : List Layer},
    r.AlikeAround before l fs scope present absent →
      Follows (r.AlikeAround before l fs scope) (Layer.fillForest filler present)
        (Layer.fillForest filler absent)
  | [], scope, present, absent => by
    rintro ⟨xs, ⟨o, ds⟩, ys, size, rfl, rfl, own, failed⟩
    -- The layer in the place is bound or a fragment, so the injection leaves it as it is.
    have stays : Layer.fill filler ⟨o, ds⟩ = .ok ⟨o, ds⟩ := Layer.fill_own own
    have sized : ∀ zs, Layer.fillForest filler xs = .ok zs → zs.length = before.length :=
      fun zs filled => (Layer.fillForest_length filled).trans size
    rw [Layer.fillForest_around, Layer.fillForest_append, stays]
    refine (Follows.without (P := fun d => d = ⟨o, ds⟩) sized (by simp) (by simp)).mono ?_
    rintro _ _ ⟨zs, _, ws, size, rfl, rfl, rfl⟩
    exact ⟨zs, ⟨o, ds⟩, ws, size, rfl, rfl, own, failed⟩
  | f :: fs, scope, present, absent => by
    rintro ⟨xs, ⟨o, ds⟩, ⟨o', ds'⟩, ys, size, rfl, rfl, same, inside⟩
    have sized : ∀ zs, Layer.fillForest filler xs = .ok zs → zs.length = f.before.length :=
      fun zs filled => (Layer.fillForest_length filled).trans size
    have eq : o = o' := same
    subst eq
    rw [Layer.fillForest_around, Layer.fillForest_around]
    refine (Follows.beside sized ?_)
    cases own : o.hasOwnScope with
    | true =>
      rw [Layer.fill_own own, Layer.fill_own own]
      exact ⟨_, rfl, rfl, inside⟩
    | false =>
      have free : o.isFragment = false := (Bool.or_eq_false_iff.mp own).2
      have around : r.AlikeAround before l fs scope ds ds' := by
        rcases inside with ⟨_, around⟩ | ⟨fragment, _⟩
        · exact around
        · simp [free] at fragment
      rw [Layer.fill_plain own, Layer.fill_plain own]
      have element : Follows (fun a b => a = b ∧ a.isFragment = false) (o.fill filler)
        (o.fill filler) :=
        Follows.same fun a filled => ⟨rfl, (Element.fill_ok_iff.mp filled).2.isFragment.trans free⟩
      refine element.bind ?_
      rintro u _ ⟨rfl, plain⟩
      refine (fillForest_alike fs around).bind fun us us' below => ?_
      exact ⟨_, rfl, rfl, Or.inl ⟨plain, below⟩⟩

theorem forestTokensFit_alike : ∀ (fs : List Frame) {scope : Option Given}
    {present absent : List Layer} (room : Nat),
    r.AlikeAround before l fs scope present absent →
      Layer.forestTokensFit room present = Layer.forestTokensFit room absent
  | [], scope, present, absent, room => by
    rintro ⟨xs, ⟨o, ds⟩, ys, _, rfl, rfl, own, _⟩
    have hidden : o.hasOwnScope = true := own
    simp [Layer.forestTokensFit_append, Layer.forestTokensFit, Layer.tokensFit, hidden]
  | f :: fs, scope, present, absent, room => by
    rintro ⟨xs, ⟨o, ds⟩, ⟨o', ds'⟩, ys, _, rfl, rfl, same, inside⟩
    have eq : o = o' := same
    subst eq
    cases own : o.hasOwnScope with
    | true => simp [Layer.forestTokensFit_append, Layer.forestTokensFit, Layer.tokensFit, own]
    | false =>
      have free : o.isFragment = false := (Bool.or_eq_false_iff.mp own).2
      rcases inside with ⟨_, around⟩ | ⟨fragment, _⟩
      · simp [Layer.forestTokensFit_append, Layer.forestTokensFit, Layer.tokensFit, own,
          forestTokensFit_alike fs _ around]
      · simp [free] at fragment

theorem resolveForest_cons (l : Layer) (ls : List Layer) (scope : Option Given) :
    (r.resolveForest (l :: ls) scope).result =
      (do
        let d ← (r.resolveLayer l scope).result
        let ds ← (r.resolveForest ls scope).result
        return d :: ds) := by
  simp only [resolveForest, Outcome.result_map]
  unfold Outcome.both
  cases (r.resolveLayer l scope).result <;> cases (r.resolveForest ls scope).result <;> rfl

theorem resolveForest_append (xs ys : List Layer) (scope : Option Given) :
    (r.resolveForest (xs ++ ys) scope).result =
      (do
        let xs ← (r.resolveForest xs scope).result
        let ys ← (r.resolveForest ys scope).result
        return xs ++ ys) := by
  induction xs with
  | nil =>
    rw [resolveForest, List.nil_append, Outcome.result_pure]
    cases (r.resolveForest ys scope).result <;> rfl
  | cons x xs ih => simp [resolveForest_cons, ih]

theorem resolveForest_around (xs : List Layer) (l : Layer) (ys : List Layer)
    (scope : Option Given) :
    (r.resolveForest (xs ++ l :: ys) scope).result =
      (do
        let xs ← (r.resolveForest xs scope).result
        let d ← (r.resolveLayer l scope).result
        let ys ← (r.resolveForest ys scope).result
        return xs ++ d :: ys) := by
  simp [resolveForest_append, resolveForest_cons]

theorem resolveForest_length {scope : Option Given} : ∀ {ls ds : List Layer},
    (r.resolveForest ls scope).result = .ok ds → ds.length = ls.length := by
  intro ls
  induction ls with
  | nil =>
    intro ds resolved
    simp only [resolveForest, Outcome.result_pure, Except.ok.injEq] at resolved
    simp [← resolved]
  | cons l ls ih =>
    intro ds resolved
    rw [resolveForest_cons] at resolved
    simp only [exceptBind_ok_iff, exceptPure_ok_iff] at resolved
    obtain ⟨d, _, rest, others, rfl⟩ := resolved
    simp [ih others]

mutual
theorem resolveLayer_violates : ∀ (l : Layer) {scope : Option Given} {cause : Failure},
    (r.resolveLayer l scope).result = .error cause → cause.isViolation = true
  | ⟨e, children⟩, scope, cause => by
    intro failed
    have inside : (keepLayer e (fun scope => r.resolveForest children scope) scope).result =
      .error cause →
        cause.isViolation = true := by
      intro kept
      exact resolveForest_violates children (Outcome.map_error_iff.mp kept)
    simp only [resolveLayer, resolveElement] at failed
    split at failed
    · rw [Outcome.result_fail, Except.error.injEq] at failed
      subst failed
      rfl
    · split at failed
      · exact inside failed
      · obtain ⟨first, _, ⟨violation, rfl⟩ | ⟨_, recovered⟩⟩ := Outcome.orElse_error_iff.mp failed
        · exact violation
        · rcases Outcome.bind_error_iff.mp recovered with warned | ⟨_, _, kept⟩
          · simp at warned
          · exact inside kept

theorem resolveForest_violates : ∀ (ls : List Layer) {scope : Option Given} {cause : Failure},
    (r.resolveForest ls scope).result = .error cause → cause.isViolation = true
  | [], scope, cause => by
    intro failed
    simp [resolveForest] at failed
  | l :: ls, scope, cause => by
    intro failed
    simp only [resolveForest] at failed
    rcases Outcome.both_error_iff.mp (Outcome.map_error_iff.mp failed) with first | ⟨_, later⟩
    · exact resolveLayer_violates l first
    · exact resolveForest_violates ls later
end

theorem stands_for_stored {stored shown : List Layer} {scope : Option Given}
    (resolved : (r.resolveForest stored scope).result = .ok shown) :
    ∀ n ∈ Layer.preorderForest shown, ∃ m ∈ Layer.preorderForest stored,
      m.StandsFor n.toElement := by
  have carries : Carries (fun e => ∃ m ∈ Layer.preorderForest stored, m.toElement = e)
      (fun o => ∃ m ∈ Layer.preorderForest stored, m.StandsFor o) :=
    { kept := by
        rintro _ ⟨m, member, rfl⟩
        exact ⟨m, member, Or.inl rfl⟩
      fragment := by
        rintro _ _ ⟨m, member, rfl⟩
        exact ⟨m, member, Or.inr (Or.inl rfl)⟩
      clone := by
        rintro _ item _ _ ⟨m, member, rfl⟩
        exact ⟨m, member, Or.inr (Or.inr ⟨item.id, rfl⟩)⟩
      filled := by
        rintro e o same ⟨m, member, stands⟩
        have id : o.id = e.id := congrArg (·.id) same
        refine ⟨m, member, ?_⟩
        unfold Element.StandsFor at stands ⊢
        rwa [id] }
  exact resolveForest_keeps carries.makes stored (fun n member => ⟨n, member, rfl⟩) resolved

/-- A bound layer ends up as something that no injection enters, and as itself where its binding
    fails. -/
theorem resolveLayer_bound {scope : Option Given} {d : Layer} (bound : l.isBound = true)
    (resolved : (r.resolveLayer l scope).result = .ok d) :
    d.hasOwnScope = true ∧ ∀ s ∈ l.binding?, ∀ cause,
      (r.expandBinding l.toElement s (fun scope => r.resolveForest l.children scope) scope).result =
        .error cause →
      d.toElement = l.toElement ∧ (r.resolveForest l.children scope).result = .ok d.children ∧
        ∀ n ∈ Layer.preorderForest d.children, ∃ m ∈ Layer.preorderForest l.children,
          m.StandsFor n.toElement := by
  obtain ⟨e, children⟩ := l
  obtain ⟨s, binding⟩ := Option.isSome_iff_exists.mp bound
  have source : e.binding? = some s := binding
  simp only [resolveLayer, resolveElement, source] at resolved
  split at resolved
  · simp at resolved
  · rcases Outcome.orElse_ok_iff.mp resolved with expanded | ⟨cause, failed, _, recovered⟩
    · constructor
      · obtain ⟨selection, clones, -, -, -, rfl⟩ := expandBinding_ok_iff.mp expanded
        simp [Element.hasOwnScope, Element.isFragment, fragmentElement]
      · intro s' found cause failed
        have same : s = s' := Option.some.inj (source.symm.trans found)
        subst same
        simp [expanded] at failed
    · obtain ⟨_, _, kept⟩ := Outcome.bind_ok_iff.mp recovered
      obtain ⟨ds, below, rfl⟩ := Outcome.map_ok_iff.mp kept
      constructor
      · have stays : e.isBound = true := bound
        simp [Element.hasOwnScope, stays]
      · exact fun _ _ _ _ => ⟨rfl, below, stands_for_stored below⟩

section step
variable {e : Element} {inner inner' : Option Given → Outcome (List Layer)}

theorem inject_alike {values : Values} {o : Element} {scope : Option Given} {ds ds' : List Layer}
    (own : o.hasOwnScope = false) (around : r.AlikeAround before l fs scope ds ds') :
    Follows (fun c c' => c.toElement = c'.toElement ∧ c.itemId = o.itemId ∧
        r.AlikeAround before l fs scope c.children c'.children)
      (Layer.inject values ⟨o, ds⟩) (Layer.inject values ⟨o, ds'⟩) := by
  have fits : Layer.tokensFit Layer.tokenRoom ⟨o, ds⟩ =
      Layer.tokensFit Layer.tokenRoom ⟨o, ds'⟩ := by
    simp [Layer.tokensFit, forestTokensFit_alike fs _ around]
  have element : Follows (fun a b => a = b ∧ a.itemId = o.itemId) (o.fill (SlotValue.inject values))
      (o.fill (SlotValue.inject values)) :=
    Follows.same fun a filled => ⟨rfl, congrArg (·.itemId) (Element.fill_ok_iff.mp filled).2⟩
  unfold Layer.inject Layer.fillFitting
  rw [Layer.fill_plain own, Layer.fill_plain own, fits]
  simp only [bind_assoc, pure_bind]
  refine element.bind ?_
  rintro u _ ⟨rfl, stamped⟩
  refine (fillForest_alike fs around).bind fun us us' below => ?_
  split
  · exact ⟨_, rfl, rfl, stamped, below⟩
  · exact fun _ => rfl

theorem clone_alike (plain : e.isFragment = false)
    (below : ∀ scope, Follows (r.AlikeAround before l fs scope) (inner scope).result
      (inner' scope).result)
    (fields : List Field) (item : Item) :
    Follows (fun c c' => c.toElement = c'.toElement ∧ c.itemId = some item.id ∧
        r.AlikeAround before l fs (some (.ofValues item.values)) c.children c'.children)
      (r.clone e inner fields item).result (r.clone e inner' fields item).result := by
  have values :
    Follows Eq (r.enhance item.values fields).result (r.enhance item.values fields).result :=
    Follows.same fun _ _ => rfl
  simp only [clone, Outcome.result_bind, Outcome.result_ofResult]
  refine (below (some (.ofValues item.values))).bind fun ds ds' around => values.bind ?_
  rintro values _ rfl
  have own : (cloneElement e item (item.slug? fields r.settings.slugFieldKey) values).hasOwnScope =
      false := by
    have free :
      (cloneElement e item (item.slug? fields r.settings.slugFieldKey) values).isFragment =
        false := plain
    rw [Element.hasOwnScope, free]
    rfl
  exact inject_alike own around

theorem expandBinding_alike (plain : e.isFragment = false) {s : CollectionSource}
    (binding : e.binding? = some s)
    (below : ∀ scope, Follows (r.AlikeAround before l fs scope) (inner scope).result
      (inner' scope).result)
    (scope : Option Given) :
    Follows (r.AlikeLayers e scope (r.AlikeAround before l fs))
      (r.expandBinding e s inner scope).result
      (r.expandBinding e s inner' scope).result := by
  have selected : Follows (fun a b => a = b ∧ (r.select e.id s scope).result = .ok a)
    (r.select e.id s scope).result
      (r.select e.id s scope).result := Follows.same fun _ found => ⟨rfl, found⟩
  simp only [expandBinding, Outcome.result_bind]
  refine selected.bind ?_
  rintro selection _ ⟨rfl, found⟩
  have each : ∀ item ∈ selection.items,
      Follows (fun c c' => c.toElement = c'.toElement ∧ ∃ item ∈ selection.items,
        c.itemId = some item.id ∧
          r.AlikeAround before l fs (some (.ofValues item.values)) c.children c'.children)
        (r.clone e inner selection.fields item).result
          (r.clone e inner' selection.fields item).result := by
    intro item member
    refine (clone_alike plain below selection.fields item).mono ?_
    rintro c c' ⟨same, stamped, around⟩
    exact ⟨same, item, member, stamped, around⟩
  refine (Follows.all each).bind fun clones clones' alike => ?_
  have recorded : Follows Eq (selection.window.recordPage e.id s.id selection.total)
      (selection.window.recordPage e.id s.id selection.total) := Follows.same fun _ _ => rfl
  refine recorded.bind ?_
  rintro page _ rfl
  have fragment : (fragmentElement e page).isFragment = true := by
    simp [Element.isFragment, fragmentElement]
  exact ⟨_, rfl, rfl, Or.inr ⟨fragment, s, selection, binding, found, alike⟩⟩

theorem keepLayer_alike (plain : e.isFragment = false)
    (below : ∀ scope, Follows (r.AlikeAround before l fs scope) (inner scope).result
      (inner' scope).result)
    (scope : Option Given) :
    Follows (r.AlikeLayers e scope (r.AlikeAround before l fs)) (keepLayer e inner scope).result
      (keepLayer e inner' scope).result := by
  simp only [keepLayer, Outcome.result_map]
  refine (below scope).bind (f := fun ds => .ok (Layer.mk e ds))
    (g := fun ds => .ok (Layer.mk e ds)) ?_
  exact fun ds ds' around => ⟨_, rfl, rfl, Or.inl ⟨plain, around⟩⟩

theorem resolveElement_alike
    (below : ∀ scope, Follows (r.AlikeAround before l fs scope) (inner scope).result
      (inner' scope).result)
    (scope : Option Given) :
    Follows (r.AlikeLayers e scope (r.AlikeAround before l fs))
      (r.resolveElement e inner scope).result
      (r.resolveElement e inner' scope).result := by
  unfold resolveElement
  cases plain : e.isFragment with
  | true =>
    intro calm
    simp [Failure.isViolation] at calm
  | false =>
    have kept := keepLayer_alike plain below scope
    cases binding : e.binding? with
    | none => exact kept
    | some s =>
      -- With and without the layer the binding fails alike, and then both are kept.
      refine (expandBinding_alike plain binding below scope).orElse fun _ _ => ?_
      rw [Outcome.result_bind, Outcome.result_bind]
      exact kept

end step

theorem resolveForest_alike (bound : l.isBound = true) (after : List Layer) :
    ∀ (fs : List Frame) (scope : Option Given),
      Follows (r.AlikeAround before l fs scope)
        (r.resolveForest (plug fs (before ++ l :: after)) scope).result
        (r.resolveForest (plug fs (before ++ after)) scope).result
  | [], scope => by
    simp only [plug]
    rw [resolveForest_around, resolveForest_append]
    exact Follows.without (fun _ resolved => resolveForest_length resolved)
      (fun _ failed => resolveLayer_violates l failed)
      fun _ resolved => resolveLayer_bound bound resolved
  | f :: fs, scope => by
    simp only [plug]
    rw [resolveForest_around, resolveForest_around]
    refine Follows.beside (fun _ resolved => resolveForest_length resolved) ?_
    simp only [resolveLayer]
    exact resolveElement_alike (resolveForest_alike bound after fs) scope

/-- A binding that fails keeps its layer, with its children resolved in the scope around it, and
    reaches no further: the forest is otherwise what it is without the layer. -/
theorem failed_binding_is_isolated (r : Resolver) (frames : List Frame) (before : List Layer)
    (l : Layer) (after : List Layer) (scope : Option Given) (bound : l.isBound = true)
    (calm : ∀ cause, (r.resolveForest (plug frames (before ++ l :: after)) scope).result =
      .error cause →
      cause.isViolation = false) :
    ∃ present absent, (r.resolveForest (plug frames (before ++ l :: after)) scope).result =
      .ok present ∧
      (r.resolveForest (plug frames (before ++ after)) scope).result = .ok absent ∧
      r.AlikeAround before l frames scope present absent := by
  have alike : Follows (r.AlikeAround before l frames scope)
      (r.resolveForest (plug frames (before ++ l :: after)) scope).result
      (r.resolveForest (plug frames (before ++ after)) scope).result :=
    resolveForest_alike bound after frames scope
  cases resolved : (r.resolveForest (plug frames (before ++ l :: after)) scope).result with
  | error cause =>
    have violation := resolveForest_violates _ resolved
    simp [calm cause resolved] at violation
  | ok present =>
    rw [resolved] at alike
    obtain ⟨absent, found, around⟩ := alike
    exact ⟨present, absent, rfl, found, around⟩

end Resolver

def shelf : Repository :=
  ({} : Repository).add "books" [{ id := "title" }]
    [{ id := "b1", collectionId := "books", values := [("title", "One")] }] none

def books : Frame where
  before := [{ id := "head" }]
  element := { id := "books", bindings := { collection := some { id := "books" } } }

def titleOf (id : String) :
    Layer := { id, bindings := { text := some (.field { fieldId := "title" }) } }

def lost : Layer where
  id := "lost"
  bindings := { text := some (.field { fieldId := "title" }), collection := some { id := "lost" } }
  children := [titleOf "within"]

theorem lost_binding_is_isolated :
    (Resolver.expandBinding { source := shelf.source } lost.toElement { id := "lost" }
      (fun _ => pure [])
      (some (.ofValues [("title", "One")]))).result.toOption.isNone = true ∧ ∃ present absent,
      (Resolver.resolveForest { source := shelf.source }
        (plug [books] ([titleOf "title"] ++ lost :: [])) none).result =
        .ok present ∧
      (Resolver.resolveForest { source := shelf.source } (plug [books] ([titleOf "title"] ++ []))
        none).result =
        .ok absent ∧
      Resolver.AlikeAround { source := shelf.source } [titleOf "title"] lost
        [books] none present absent := by
  have resolved :
    (Resolver.resolveForest { source := shelf.source }
      (plug [books] ([titleOf "title"] ++ lost :: []))
      none).result.toOption.isSome = true := by decide +kernel
  have calm : ∀ cause,
      (Resolver.resolveForest { source := shelf.source }
        (plug [books] ([titleOf "title"] ++ lost :: [])) none).result =
        .error cause → cause.isViolation = false := by
    intro cause failed
    rw [failed] at resolved
    simp [Except.toOption] at resolved
  exact ⟨by
    decide +kernel, Resolver.failed_binding_is_isolated { source := shelf.source } [books]
      [titleOf "title"] lost
    [] none (by decide) calm⟩

end PageLayers
