import PageLayers.Proofs.Expansion
import PageLayers.Proofs.Failures
import PageLayers.Proofs.ReferenceValues

/-!
An item can be injected into layers before or after their bindings are resolved. A page made for an
item injects it first, into what is stored; a clone of a layer has its item injected at the end,
into what is left of its children. Both come to the same, because an injection does not enter bound
layers and resolution leaves nothing in their place that it enters. The scopes of the two differ in
the values that references add, and these count only where a binding is restricted by one of them.
-/

namespace PageLayers

/-- Two outcomes with the same journal, and the same failure or related results. -/
inductive Outcome.Alike {α β : Type} (R : α → β → Prop) : Outcome α → Outcome β → Prop
  | ok {a : α} {b : β} {journal : Journal} (related : R a b) :
      Alike R ⟨.ok a, journal⟩ ⟨.ok b, journal⟩
  | error {cause : Failure} {journal : Journal} :
      Alike R ⟨.error cause, journal⟩ ⟨.error cause, journal⟩

namespace Outcome.Alike
variable {α β γ δ : Type} {R : α → β → Prop} {S : γ → δ → Prop} {o : Outcome α} {p : Outcome β}

theorem itself {R : α → α → Prop} (related : ∀ a, o.result = .ok a → R a a) : Alike R o o := by
  obtain ⟨result, journal⟩ := o
  cases result with
  | error cause => exact .error
  | ok a => exact .ok (related a rfl)

theorem mono {R' : α → β → Prop} (alike : Alike R o p)
    (stronger : ∀ a b, o.result = .ok a → R a b → R' a b) : Alike R' o p := by
  cases alike with
  | ok related => exact .ok (stronger _ _ rfl related)
  | error => exact .error

theorem map {f : α → γ} {g : β → δ} (alike : Alike R o p) (next : ∀ a b, R a b → S (f a) (g b)) :
    Alike S (f <$> o) (g <$> p) := by
  cases alike with
  | ok related => exact .ok (next _ _ related)
  | error => exact .error

theorem both {o' : Outcome γ} {p' : Outcome δ} (first : Alike R o p) (second : Alike S o' p') :
    Alike (fun x y => R x.1 y.1 ∧ S x.2 y.2) (Outcome.both o o') (Outcome.both p p') := by
  cases first with
  | error => cases second <;> exact .error
  | ok here =>
    cases second with
    | error => exact .error
    | ok there => exact .ok ⟨here, there⟩

theorem eq_bind {f : α → Except Failure β} (alike : Alike (fun a b => f a = .ok b) o p) :
    p = (do let a ← o; Outcome.ofResult (f a)) := by
  cases alike with
  | error => rfl
  | @ok a b journal made =>
    rw [Outcome.bind_of_ok rfl, made]
    change _ = Outcome.mk _ (journal ++ {})
    rw [Journal.append_empty]
    rfl

end Outcome.Alike

namespace References

theorem Offers.dotted {leads : Leads} {path key value : String} {x : Visit}
    (offered : Offers leads path x key value) : '.' ∈ key.toList := by
  obtain ⟨_, _, _, _, _, _, rfl⟩ := offered
  simp

theorem lookup_enhance {source : DataSource} {v : Variant} {values enhanced : Values}
    {fields : List Field}
    (done : (enhance source v values fields).result = .ok enhanced) {key : String}
    (plain : (values.lookup key).isSome = true ∨ '.' ∉ key.toList) :
    enhanced.lookup key = values.lookup key := by
  obtain ⟨w, walked, rfl⟩ := Outcome.map_ok_iff.mp done
  obtain ⟨_, trail, walks, _⟩ := walks_of_walk walked
  rw [walks.values_eq, Entries.lookup_extend]
  rcases plain with own | dotless
  · obtain ⟨value, own⟩ := Option.isSome_iff_exists.mp own
    rw [own, Option.some_or]
  · have nothing : (trail.flatMap (offers (leads source v) "")).lookup key = none := by
      rw [Option.eq_none_iff_forall_ne_some]
      intro value offered
      obtain ⟨x, _, made, _⟩ := (lookup_trail_iff walks.ascending).mp offered
      exact dotless made.dotted
    rw [nothing, Option.or_none]

end References

namespace Resolver
variable {r : Resolver}

theorem lookup_enhance {values enhanced : Values} {fields : List Field}
    (done : (r.enhance values fields).result = .ok enhanced) {key : String}
    (plain : (values.lookup key).isSome = true ∨ '.' ∉ key.toList) :
    enhanced.lookup key = values.lookup key := by
  unfold enhance at done
  split at done
  · exact References.lookup_enhance done plain
  · rw [Outcome.result_pure, Except.ok.injEq] at done
    rw [done]

/-- Two scopes agree on the source field of a binding, if it has one. -/
def AgreeOn (scope scope' : Given) (e : Element) : Prop :=
  ∀ s ∈ e.binding?, ∀ field ∈ s.sourceField?, scope.lookup field = scope'.lookup field

section scope
variable {scope scope' : Given} {e : Element} {inner : Option Given → Outcome (List Layer)}

theorem allowedIds_agree {s : CollectionSource}
    (agree : ∀ field ∈ s.sourceField?, scope.lookup field = scope'.lookup field) :
    s.allowedIds (some scope) = s.allowedIds (some scope') := by
  have given : s.allowedGiven (some scope) = s.allowedGiven (some scope') := by
    unfold CollectionSource.allowedGiven
    cases source : s.sourceField? with
    | none => rfl
    | some field => simp only [agree field source]
  unfold CollectionSource.allowedIds
  rw [given]

theorem select_agree {s : CollectionSource} (layerId : String)
    (agree : ∀ field ∈ s.sourceField?, scope.lookup field = scope'.lookup field) :
    r.select layerId s (some scope) = r.select layerId s (some scope') := by
  unfold select
  rw [allowedIds_agree agree]

theorem resolveElement_agree (agree : AgreeOn scope scope' e)
    (inside : inner (some scope) = inner (some scope')) :
    r.resolveElement e inner (some scope) = r.resolveElement e inner (some scope') := by
  have kept : keepLayer e inner (some scope) = keepLayer e inner (some scope') := by
    rw [keepLayer, keepLayer, inside]
  unfold resolveElement
  cases binding : e.binding? with
  | none => rw [kept]
  | some s =>
    have expanded : r.expandBinding e s inner (some scope) =
        r.expandBinding e s inner (some scope') := by
      unfold expandBinding
      rw [select_agree e.id (agree s binding)]
    simp only [kept, expanded]

mutual
theorem resolveLayer_agree : ∀ (l : Layer),
    (∀ n ∈ Layer.preorder l, AgreeOn scope scope' n.toElement) →
    r.resolveLayer l (some scope) = r.resolveLayer l (some scope')
  | ⟨e, children⟩ => by
    intro agree
    obtain ⟨here, below⟩ := Layer.forall_preorder_iff.mp agree
    simp only [resolveLayer]
    exact resolveElement_agree here (resolveForest_agree children below)

theorem resolveForest_agree : ∀ (ls : List Layer),
    (∀ n ∈ Layer.preorderForest ls, AgreeOn scope scope' n.toElement) →
    r.resolveForest ls (some scope) = r.resolveForest ls (some scope')
  | [] => by
    intro _
    rfl
  | l :: ls => by
    intro agree
    obtain ⟨head, tail⟩ := Layer.forall_preorderForest_cons.mp agree
    simp only [resolveForest]
    rw [resolveLayer_agree l head, resolveForest_agree ls tail]
end

end scope

section order
variable {filler : Filler} {scope : Option Given}

theorem resolveLayer_own {l : Layer} (own : l.hasOwnScope = true) {d : Layer}
    (resolved : (r.resolveLayer l scope).result = .ok d) : d.hasOwnScope = true := by
  cases bound : l.isBound with
  | true => exact (resolveLayer_bound bound resolved).1
  | false =>
    have fragment : l.isFragment = true := by simpa [Element.hasOwnScope, bound] using own
    obtain ⟨e, children⟩ := l
    simp only [resolveLayer, resolveElement] at resolved
    rw [if_pos fragment] at resolved
    simp at resolved

theorem resolveLayer_plain {e : Element} (plain : e.hasOwnScope = false) (children : List Layer) :
    r.resolveLayer ⟨e, children⟩ scope = Layer.mk e <$> r.resolveForest children scope := by
  obtain ⟨free, unmarked⟩ := Bool.or_eq_false_iff.mp plain
  have binding : e.binding? = none := by simpa [Element.isBound] using free
  simp only [resolveLayer, resolveElement, unmarked, binding, Bool.false_eq_true, ↓reduceIte]
  rfl

mutual
theorem resolveLayer_fill : ∀ (l : Layer) {t : Layer}, Layer.fill filler l = .ok t →
    Outcome.Alike (fun d d' => Layer.fill filler d = .ok d') (r.resolveLayer l scope)
      (r.resolveLayer t scope)
  | ⟨e, children⟩, t => by
    intro filled
    cases own : e.hasOwnScope with
    | true =>
      rw [Layer.fill_own own, Except.ok.injEq] at filled
      subst filled
      refine .itself fun d resolved => ?_
      obtain ⟨o, ds⟩ := d
      exact Layer.fill_own (resolveLayer_own own resolved)
    | false =>
      obtain ⟨o, ts, first, rest, rfl⟩ := (Layer.fill_ok_iff own).mp filled
      have plain : o.hasOwnScope = false := (Element.fill_ok_iff.mp first).2.hasOwnScope.trans own
      rw [resolveLayer_plain own, resolveLayer_plain plain]
      refine (resolveForest_fill children rest).map fun ds ds' below => ?_
      exact (Layer.fill_ok_iff own).mpr ⟨o, ds', first, below, rfl⟩

/-- Layers into which slots were filled before are resolved to what they are resolved to otherwise,
    with the slots filled. -/
theorem resolveForest_fill : ∀ (ls : List Layer) {ts : List Layer}, Layer.fillForest filler ls =
    .ok ts →
    Outcome.Alike (fun ds ds' => Layer.fillForest filler ds = .ok ds') (r.resolveForest ls scope)
      (r.resolveForest ts scope)
  | [], ts => by
    intro filled
    simp only [Layer.fillForest, Except.ok.injEq] at filled
    subst filled
    exact .ok rfl
  | l :: ls, ts => by
    intro filled
    obtain ⟨t, others, first, rest, rfl⟩ := Layer.fillForest_cons_ok_iff.mp filled
    simp only [resolveForest]
    refine ((resolveLayer_fill l first).both (resolveForest_fill ls rest)).map
      fun ds ds' below => ?_
    exact Layer.fillForest_cons_ok_iff.mpr ⟨ds'.1, ds'.2, below.1, below.2, rfl⟩
end

mutual
theorem tokensFit_resolved : ∀ (l : Layer) {d : Layer} (room : Nat),
    (r.resolveLayer l scope).result = .ok d →
    Layer.tokensFit room d = Layer.tokensFit room l
  | ⟨e, children⟩, d, room => by
    intro resolved
    cases own : e.hasOwnScope with
    | true =>
      have hidden := resolveLayer_own own resolved
      obtain ⟨o, ds⟩ := d
      have covered : o.hasOwnScope = true := hidden
      simp [Layer.tokensFit, own, covered]
    | false =>
      rw [resolveLayer_plain own] at resolved
      obtain ⟨ds, below, rfl⟩ := Outcome.map_ok_iff.mp resolved
      simp only [Layer.tokensFit, forestTokensFit_resolved children _ below]

theorem forestTokensFit_resolved : ∀ (ls : List Layer) {ds : List Layer} (room : Nat),
    (r.resolveForest ls scope).result = .ok ds →
      Layer.forestTokensFit room ds = Layer.forestTokensFit room ls
  | [], ds, room => by
    intro resolved
    simp only [resolveForest, Outcome.result_pure, Except.ok.injEq] at resolved
    rw [← resolved]
  | l :: ls, ds, room => by
    intro resolved
    rw [resolveForest_cons] at resolved
    simp only [exceptBind_ok_iff, exceptPure_ok_iff] at resolved
    obtain ⟨d, first, rest, others, rfl⟩ := resolved
    simp only [Layer.forestTokensFit, tokensFit_resolved l room first,
      forestTokensFit_resolved ls room others]
end

theorem resolveForest_tokensFit (ls : List Layer) {ds : List Layer} (room : Nat)
    (resolved : (r.resolveForest ls scope).result = .ok ds)
    (fits : Layer.forestTokensFit room ls = true) : Layer.forestTokensFit room ds = true :=
  (forestTokensFit_resolved ls room resolved).trans fits

end order

/-- A page made for an item and a clone for the item agree. Layers into which the item's enhanced
    values were injected, resolved in the scope of these, come to what the layers come to that are
    resolved in the scope of the item's own values and are injected after that: the same layers or
    the same failure, after the same fetches and warnings, whichever bindings fail on the way. The
    source fields of bindings have to be fields of the item or paths without dots. -/
theorem resolve_injected_eq_inject_resolved (r enhancer : Resolver) (layers : List Layer)
    (item : Item) (fields : List Field) {values : Values} {injected : List Layer}
    (enhanced : (enhancer.enhance item.values fields).result = .ok values)
    (injects : Layer.injectForest values layers = .ok injected)
    (plain : ∀ n ∈ Layer.preorderForest layers, ∀ s ∈ n.binding?, ∀ field ∈ s.sourceField?,
      (item.values.lookup field).isSome = true ∨ '.' ∉ field.toList) :
    r.resolveForest injected (some (.ofValues values)) =
      (do
        let resolved ← r.resolveForest layers (some (.ofValues item.values))
        Outcome.ofResult (Layer.injectForest values resolved)) := by
  obtain ⟨filled, fits⟩ := Layer.fillFittingForest_eq_ok_iff.mp injects
  have agree : ∀ n ∈ Layer.preorderForest layers,
      AgreeOn (.ofValues values) (.ofValues item.values) n.toElement := by
    intro n member s binding field source
    rw [Given.lookup_ofValues, Given.lookup_ofValues,
      lookup_enhance enhanced (plain n member s binding field source)]
  rw [← resolveForest_agree layers agree]
  refine Outcome.Alike.eq_bind
    ((resolveForest_fill layers filled).mono fun ds ds' resolved below => ?_)
  exact Layer.fillFittingForest_eq_ok_iff.mpr
    ⟨below, resolveForest_tokensFit layers _ resolved fits⟩

end Resolver
def tagged (label : SlotValue) : List Layer := [{
  id := "tagged"
  bindings := { text := some label }
  children := [
    { id := "tags"
      bindings := {
        text := some (.field { fieldId := "label" })
        collection := some { id := "tags", sourceFieldId := some "tags" } } },
    lost] }]

def post :
    Item :=
      { id := "p1", collectionId := "posts", values := [("title", "One"), ("tags", "[\"t1\"]")] }

def postFields : List Field :=
  [{ id := "tags", type := .multiReference, referenceCollectionId := some "tags" }]

theorem tagged_agrees :
    let r : Resolver := { source := blog.source }
    let injected :=
      r.resolveForest (tagged (.static "Red"))
        (some (.ofValues (post.values ++ [("tags.label", "Red")])))
    (injected.result.toOption.isSome = true ∧ injected.journal.warnings = [.keptLayer "lost"]) ∧
    injected =
      (do
        let resolved ← r.resolveForest
          (tagged (.field { fieldId := "tags", relationships := ["label"] }))
          (some (.ofValues post.values))
        Outcome.ofResult (Layer.injectForest (post.values ++ [("tags.label", "Red")]) resolved)) :=
  ⟨by decide +kernel, Resolver.resolve_injected_eq_inject_resolved { source := blog.source }
    { source := blog.source }
    (tagged (.field { fieldId := "tags", relationships := ["label"] })) post postFields
      (by decide +kernel)
    (by decide +kernel) (by decide +kernel)⟩

end PageLayers
