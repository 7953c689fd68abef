import PageLayers.Json.Printer
import PageLayers.Proofs.Injection

/-!
An injection is final. What it reaches holds fixed content afterwards, in which no later injection
finds anything to fill, and what lies behind its border, the layers that have an item of their own,
is left as it was stored.
-/

namespace PageLayers

theorem SlotValue.inject_fixed {values : Values} {v : SlotValue} (fixed : v.isFixed = true) :
    v.inject values = .ok v := by
  cases v with
  | static text => rfl
  | asset id => rfl
  | field binding => cases fixed
  | dynamicText content => cases fixed

def Element.Settled (e : Element) : Prop := ∀ slot, ∀ v ∈ e.bindings.get slot, v.isFixed = true

theorem Element.settled_of_fill {values : Values} {e o : Element}
    (filled : e.fill (SlotValue.inject values) = .ok o) : o.Settled :=
  fun slot _ value => ((Element.shownAs_some_iff.mpr filled).slots slot).isFixed value

theorem Element.Settled.fill {e : Element} (settled : e.Settled) (values : Values) :
    e.fill (SlotValue.inject values) = .ok e := by
  rw [Element.fill_ok_iff]
  refine ⟨fun slot => ?_, rfl⟩
  cases value : e.bindings.get slot with
  | none => rfl
  | some v =>
    rw [fillSlot, SlotValue.inject_fixed (settled slot v value)]
    rfl

theorem Element.Settled.tokensFit {e : Element} (settled : e.Settled) (room : Nat) :
    e.bindings.tokensFit room = true := by
  refine List.all_eq_true.mpr fun slot _ => ?_
  cases value : e.bindings.get slot with
  | none => rfl
  | some v =>
    have fixed := settled slot v value
    cases v with
    | static text => rfl
    | asset id => rfl
    | field binding => cases fixed
    | dynamicText content => cases fixed

namespace Layer

/-- The second layer is the first one with the item's values in its slots, which hold fixed content,
    down to the layers that have an item of their own; these stand in it as they are. -/
inductive SettledBy (values : Values) : Layer → Layer → Prop
  | border {l : Layer} (own : l.hasOwnScope = true) : SettledBy values l l
  | within {e o : Element} {children below : List Layer} (plain : e.hasOwnScope = false)
      (shown : e.ShownAs (some values) o) (settled : o.Settled)
        (inside : List.Forall₂ (SettledBy values) children below) :
      SettledBy values ⟨e, children⟩ ⟨o, below⟩

variable {values : Values}

mutual
theorem settledBy_of_fill : ∀ (l : Layer) {d : Layer}, fill (SlotValue.inject values) l = .ok d →
    SettledBy values l d
  | ⟨e, children⟩, d => by
    intro filled
    cases own : e.hasOwnScope with
    | true =>
      rw [fill_own own, Except.ok.injEq] at filled
      exact filled ▸ .border own
    | false =>
      obtain ⟨o, below, first, rest, rfl⟩ := (fill_ok_iff own).mp filled
      exact .within own (Element.shownAs_some_iff.mpr first) (Element.settled_of_fill first)
        (settledForest_of_fill children rest)

theorem settledForest_of_fill : ∀ (ls : List Layer) {ds : List Layer},
    fillForest (SlotValue.inject values) ls = .ok ds →
    List.Forall₂ (SettledBy values) ls ds
  | [], ds => by
    intro filled
    simp only [fillForest, Except.ok.injEq] at filled
    exact filled ▸ .nil
  | l :: ls, ds => by
    intro filled
    obtain ⟨d, rest, first, others, rfl⟩ := fillForest_cons_ok_iff.mp filled
    exact .cons (settledBy_of_fill l first) (settledForest_of_fill ls others)
end

mutual
theorem fill_again (later : Values) : ∀ (l : Layer) {d : Layer},
    fill (SlotValue.inject values) l = .ok d →
    fill (SlotValue.inject later) d = .ok d
  | ⟨e, children⟩, d => by
    intro filled
    cases own : e.hasOwnScope with
    | true =>
      rw [fill_own own, Except.ok.injEq] at filled
      exact filled ▸ fill_own own
    | false =>
      obtain ⟨o, below, first, rest, rfl⟩ := (fill_ok_iff own).mp filled
      have plain : o.hasOwnScope = false := (Element.fill_ok_iff.mp first).2.hasOwnScope.trans own
      exact (fill_ok_iff plain).mpr
        ⟨o, below, (Element.settled_of_fill first).fill later, fillForest_again later children rest,
          rfl⟩

theorem fillForest_again (later : Values) : ∀ (ls : List Layer) {ds : List Layer},
    fillForest (SlotValue.inject values) ls = .ok ds →
      fillForest (SlotValue.inject later) ds = .ok ds
  | [], ds => by
    intro filled
    simp only [fillForest, Except.ok.injEq] at filled
    exact filled ▸ rfl
  | l :: ls, ds => by
    intro filled
    obtain ⟨d, rest, first, others, rfl⟩ := fillForest_cons_ok_iff.mp filled
    exact fillForest_cons_ok_iff.mpr
      ⟨d, rest, fill_again later l first, fillForest_again later ls others, rfl⟩
end

mutual
theorem tokensFit_filled : ∀ (l : Layer) {d : Layer} (room : Nat),
    fill (SlotValue.inject values) l = .ok d →
    tokensFit room d = true
  | ⟨e, children⟩, d, room => by
    intro filled
    cases own : e.hasOwnScope with
    | true =>
      rw [fill_own own, Except.ok.injEq] at filled
      simp [← filled, tokensFit, own]
    | false =>
      obtain ⟨o, below, first, rest, rfl⟩ := (fill_ok_iff own).mp filled
      simp [tokensFit, (Element.settled_of_fill first).tokensFit,
        forestTokensFit_filled children _ rest]

theorem forestTokensFit_filled : ∀ (ls : List Layer) {ds : List Layer} (room : Nat),
    fillForest (SlotValue.inject values) ls = .ok ds → forestTokensFit room ds = true
  | [], ds, room => by
    intro filled
    simp only [fillForest, Except.ok.injEq] at filled
    exact filled ▸ rfl
  | l :: ls, ds, room => by
    intro filled
    obtain ⟨d, rest, first, others, rfl⟩ := fillForest_cons_ok_iff.mp filled
    simp [forestTokensFit, tokensFit_filled l room first, forestTokensFit_filled ls room others]
end

/-- Once an item has been injected, no later injection changes anything, whatever texts the item's
    values are. The injection has put fixed content into every slot down to the layers that have an
    item of their own, and has changed nothing else. -/
theorem injection_is_final (values : Values) {l d : Layer} (injected : inject values l = .ok d) :
    SettledBy values l d ∧ ∀ later, inject later d = .ok d := by
  obtain ⟨filled, -⟩ := inject_ok_iff.mp injected
  exact ⟨settledBy_of_fill l filled, fun later =>
    inject_ok_iff.mpr ⟨fill_again later l filled, tokensFit_filled l _ filled⟩⟩

end Layer

def fieldToken (fieldId : String) : String :=
  .ofList (Token.source (Json.renderChars
    (.object [("type", .text "field"), ("data", .object [("field_id", .text fieldId)])])))

def teaser (heading : SlotValue) (picture : SlotValue) : Layer where
  id := "teaser"
  bindings := { text := some heading }
  children := [
    { id := "picture", bindings := { image := some picture } },
    { id := "tags", bindings :=
      { text := some (.field { fieldId := "label" }), collection := some { id := "tags" } } },
    { id := "notes-fragment", name := fragmentName, children := [
      { id := "note", bindings := { text := some (.dynamicText (fieldToken "label")) } }] }]

theorem teaser_is_settled :
    let stored := teaser (.dynamicText ("On " ++ fieldToken "title"))
      (.field { fieldId := "cover", fieldType := some .image })
    let values : Values := [("title", fieldToken "label"), ("cover", "a1")]
    let settled := teaser (.static ("On " ++ fieldToken "label")) (.asset (some "a1"))
    Layer.inject values stored = .ok settled ∧ Layer.SettledBy values stored settled ∧
      Layer.inject [("label", "Red")] settled = .ok settled := by
  intro stored values settled
  have injected : Layer.inject values stored = .ok settled := by decide +kernel
  obtain ⟨fixed, final⟩ := Layer.injection_is_final values injected
  exact ⟨injected, fixed, final _⟩

end PageLayers
