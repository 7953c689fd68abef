import PageLayers.Layer.Injection
import Mathlib.Data.List.Forall2

/-!
What filling content slots does to a layer. It changes the slots one by one and nothing else, and it
goes down to the layers that have an item of their own, which stay as they are with everything
within them.
-/

namespace PageLayers

def Element.SameButSlots (e o : Element) : Prop :=
  { o with bindings :=
    { e.bindings with collection := o.bindings.collection, visibility := o.bindings.visibility } } =
      e

/-- What a slot holds in the scope of an item: its value with the item's values put in. Without an
    item it holds what is stored. -/
def SlotShows (scope : Option Values) (stored shown : Option SlotValue) : Prop :=
  match scope with
  | none => shown = stored
  | some values => fillSlot (SlotValue.inject values) stored = .ok shown

structure Element.ShownAs (scope : Option Values) (e o : Element) : Prop where
  slots : ∀ slot, SlotShows scope (e.bindings.get slot) (o.bindings.get slot)
  rest : e.SameButSlots o

section same
variable {e o : Element}

theorem Element.SameButSlots.collection (same : e.SameButSlots o) :
    o.bindings.collection = e.bindings.collection :=
  congrArg (·.bindings.collection) same

theorem Element.SameButSlots.visibility (same : e.SameButSlots o) :
    o.bindings.visibility = e.bindings.visibility :=
  congrArg (·.bindings.visibility) same

theorem Element.SameButSlots.id (same : e.SameButSlots o) : o.id = e.id := congrArg (·.id) same

theorem Element.SameButSlots.name (same : e.SameButSlots o) : o.name = e.name :=
  congrArg (·.name) same

theorem Element.SameButSlots.itemValues (same : e.SameButSlots o) : o.itemValues = e.itemValues :=
  congrArg (·.itemValues) same

theorem Element.SameButSlots.binding? (same : e.SameButSlots o) : o.binding? = e.binding? := by
  simp [Element.binding?, same.collection]

theorem Element.SameButSlots.isFragment (same : e.SameButSlots o) :
    o.isFragment = e.isFragment := by
  simp [Element.isFragment, same.name]

theorem Element.SameButSlots.hasOwnScope (same : e.SameButSlots o) :
    o.hasOwnScope = e.hasOwnScope := by
  simp [Element.hasOwnScope, Element.isBound, same.binding?, same.isFragment]

end same

theorem exceptBind_ok_iff {α β : Type} {x : Except Failure α} {next : α → Except Failure β}
    {b : β} : (x >>= next) = .ok b ↔ ∃ a, x = .ok a ∧ next a = .ok b := by
  cases x <;> simp [bind, Except.bind]

theorem exceptPure_ok_iff {α : Type} {a b : α} : (pure a : Except Failure α) = .ok b ↔ a = b := by
  simp [pure, Except.pure]

theorem exceptMap_ok_iff {α β : Type} {f : α → β} {x : Except Failure α} {b : β} :
    f <$> x = .ok b ↔ ∃ a, x = .ok a ∧ f a = b := by
  cases x <;> simp [Functor.map, Except.map]

theorem toOption_map_eq_some_iff {α β : Type} {f : α → β} {x : Except Failure α} {b : β} :
    x.toOption.map f = some b ↔ ∃ a, x = .ok a ∧ f a = b := by
  cases x <;> simp [Except.toOption]

theorem Bindings.fill_ok_iff {filler : Filler} {v w : Bindings} :
    v.fill filler = .ok w ↔ (∀ slot, fillSlot filler (v.get slot) = .ok (w.get slot)) ∧
      w.collection = v.collection ∧ w.visibility = v.visibility := by
  simp only [fill, exceptBind_ok_iff, exceptPure_ok_iff]
  constructor
  · rintro ⟨text, htext, image, himage, video, hvideo, icon, hicon, link, hlink, rfl⟩
    refine ⟨fun slot => ?_, rfl, rfl⟩
    cases slot <;> assumption
  · rintro ⟨slots, collection, visibility⟩
    refine ⟨w.text, slots .text, w.image, slots .image, w.video, slots .video, w.icon,
      slots .icon, w.link, slots .link, ?_⟩
    cases w
    simp_all

theorem Element.fill_ok_iff {filler : Filler} {e o : Element} :
    e.fill filler = .ok o ↔
      (∀ slot, fillSlot filler (e.bindings.get slot) = .ok (o.bindings.get slot)) ∧
      e.SameButSlots o := by
  simp only [Element.fill, exceptBind_ok_iff, exceptPure_ok_iff, Bindings.fill_ok_iff]
  constructor
  · rintro ⟨w, ⟨slots, collection, visibility⟩, rfl⟩
    exact ⟨slots, by simp [SameButSlots, collection, visibility]⟩
  · rintro ⟨slots, same⟩
    refine ⟨o.bindings, ⟨slots, same.collection, same.visibility⟩, ?_⟩
    have put : { o with bindings := o.bindings } = { e with bindings := o.bindings } :=
      congrArg (fun x => { x with bindings := o.bindings }) same
    exact put.symm

theorem Element.shownAs_some_iff {values : Values} {e o : Element} :
    e.ShownAs (some values) o ↔ e.fill (SlotValue.inject values) = .ok o := by
  rw [Element.fill_ok_iff]
  exact ⟨fun h => ⟨h.slots, h.rest⟩, fun h => ⟨h.1, h.2⟩⟩

theorem Element.shownAs_none_iff {e o : Element} : e.ShownAs none o ↔ o = e := by
  constructor
  · rintro ⟨slots, rest⟩
    have text : o.bindings.text = e.bindings.text := slots .text
    have image : o.bindings.image = e.bindings.image := slots .image
    have video : o.bindings.video = e.bindings.video := slots .video
    have icon : o.bindings.icon = e.bindings.icon := slots .icon
    have link : o.bindings.link = e.bindings.link := slots .link
    rw [← rest]
    simp [← text, ← image, ← video, ← icon, ← link]
  · rintro rfl
    exact ⟨fun _ => rfl, rfl⟩

/-- A value with the item's values put in is fixed: it depends on no item any more. -/
def SlotValue.isFixed : SlotValue → Bool
  | .static _ | .asset _ => true
  | _ => false

theorem SlotValue.inject_isFixed {values : Values} {v shown : SlotValue}
    (h : v.inject values = .ok shown) : shown.isFixed = true := by
  cases v with
  | static text => cases h; rfl
  | asset id => cases h; rfl
  | field binding =>
    simp only [inject] at h
    split at h <;> · cases h; rfl
  | dynamicText content =>
    simp only [inject] at h
    cases resolved : Token.resolve (some values) content with
    | error cause => simp [resolved, Functor.map, Except.map] at h
    | ok text =>
      simp only [resolved, Functor.map, Except.map, Except.ok.injEq] at h
      simp [← h, isFixed]

theorem SlotShows.isFixed {values : Values} {stored shown : Option SlotValue} {v : SlotValue}
    (h : SlotShows (some values) stored shown) (value : shown = some v) : v.isFixed = true := by
  subst value
  cases stored with
  | none => simp [SlotShows, fillSlot] at h
  | some u =>
    simp only [SlotShows, fillSlot] at h
    cases filled : u.inject values with
    | error cause => simp [filled, Functor.map, Except.map] at h
    | ok w =>
      simp only [filled, Functor.map, Except.map, Except.ok.injEq, Option.some.injEq] at h
      exact h ▸ SlotValue.inject_isFixed filled

namespace Layer

theorem fill_own {filler : Filler} {e : Element} {children : List Layer}
    (own : e.hasOwnScope = true) : fill filler ⟨e, children⟩ = .ok ⟨e, children⟩ := by
  simp [fill, own]

theorem fill_ok_iff {filler : Filler} {e : Element} {children : List Layer} {d : Layer}
    (plain : e.hasOwnScope = false) :
    fill filler ⟨e, children⟩ = .ok d ↔
      ∃ o ds, e.fill filler = .ok o ∧ fillForest filler children = .ok ds ∧ d = ⟨o, ds⟩ := by
  simp only [fill, plain, Bool.false_eq_true, ↓reduceIte, exceptBind_ok_iff, exceptPure_ok_iff]
  constructor
  · rintro ⟨o, first, ds, rest, rfl⟩
    exact ⟨o, ds, first, rest, rfl⟩
  · rintro ⟨o, ds, first, rest, rfl⟩
    exact ⟨o, first, ds, rest, rfl⟩

theorem fillForest_cons_ok_iff {filler : Filler} {l : Layer} {ls ds : List Layer} :
    fillForest filler (l :: ls) = .ok ds ↔
      ∃ d rest, fill filler l = .ok d ∧ fillForest filler ls = .ok rest ∧ ds = d :: rest := by
  simp only [fillForest, exceptBind_ok_iff, exceptPure_ok_iff]
  constructor
  · rintro ⟨d, first, rest, others, rfl⟩
    exact ⟨d, rest, first, others, rfl⟩
  · rintro ⟨d, rest, first, others, rfl⟩
    exact ⟨d, first, rest, others, rfl⟩

theorem inject_ok_iff {values : Values} {l d : Layer} :
    inject values l = .ok d ↔ fill (SlotValue.inject values) l = .ok d ∧
    tokensFit tokenRoom l = true :=
  fillFitting_eq_ok_iff

end Layer
end PageLayers
