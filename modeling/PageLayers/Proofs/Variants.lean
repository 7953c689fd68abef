import PageLayers.Page
import PageLayers.Store.Repository

/-!
A resolution asks its source about one variant only. Two sources that agree on that variant cannot
be told apart, so that drafts never reach a published page, nor published data the preview of a
draft.
-/

namespace PageLayers

/-- Two sources give the same answers about a variant. -/
structure DataSource.AgreeOn (v : Variant) (a b : DataSource) : Prop where
  items : ∀ id query, a.items id v query = b.items id v query
  item : ∀ id, a.item id v = b.item id v
  fields : ∀ id, a.fields id v = b.fields id v

theorem Repository.source_agreeOn {a b : Repository} {v : Variant}
    (same : a.collections v = b.collections v) :
    DataSource.AgreeOn v a.source b.source where
  items id query := by simp [source, items, same]
  item id := by simp [source, item?, same]
  fields id := by simp [source, fields, same]

namespace References
variable {a b : DataSource} {v : Variant}

theorem fetchOrSkip_eq_of_agree (agree : a.AgreeOn v b) (fieldId collectionId itemId : String) :
    fetchOrSkip a v fieldId collectionId itemId = fetchOrSkip b v fieldId collectionId itemId := by
  simp only [fetchOrSkip, fetchReferenced, agree.item, agree.fields]

theorem visitField_eq_of_agree (agree : a.AgreeOn v b) {follow follow' : Follow}
    (same : follow = follow') (values : Values) (path : String) (w : Walk) (f : Field) :
    visitField a v follow values path w f = visitField b v follow' values path w f := by
  subst same
  have visit : ∀ fieldId collectionId path, visitItem a v follow fieldId collectionId path =
      visitItem b v follow fieldId collectionId path := by
    intro fieldId collectionId path
    funext w itemId
    simp only [visitItem, fetchOrSkip_eq_of_agree agree]
  simp only [visitField, visit]

theorem followWithin_eq_of_agree (agree : a.AgreeOn v b) (room : Nat) :
    followWithin a v room = followWithin b v room := by
  induction room with
  | zero => rfl
  | succ room ih =>
    funext values fields path w
    -- Both walks take the same step, and what they follow from there is the same by induction.
    have step : visitField a v (followWithin a v room) values path =
        visitField b v (followWithin b v room) values path := by
      funext w f
      exact visitField_eq_of_agree agree ih values path w f
    simp only [followWithin, step]

theorem enhance_eq_of_agree (agree : a.AgreeOn v b) (values : Values) (fields : List Field) :
    enhance a v values fields = enhance b v values fields := by
  simp only [enhance, walk, followWithin_eq_of_agree agree]

end References

namespace Resolver
variable {r : Resolver} {b : DataSource}

theorem enhance_eq_of_agree (agree : r.source.AgreeOn r.variant b) (values : Values)
    (fields : List Field) :
    { r with source := b }.enhance values fields = r.enhance values fields := by
  simp only [enhance, References.enhance_eq_of_agree agree]

theorem select_eq_of_agree (agree : r.source.AgreeOn r.variant b) (layerId : String)
    (s : CollectionSource) (scope : Option Given) : { r with source := b }.select layerId s scope =
      r.select layerId s scope := by
  simp only [select, agree.items, agree.fields]

theorem resolveElement_eq_of_agree (agree : r.source.AgreeOn r.variant b) (e : Element)
    {inner inner' : Option Given → Outcome (List Layer)} (same : inner' = inner)
    (scope : Option Given) :
    { r with source := b }.resolveElement e inner' scope = r.resolveElement e inner scope := by
  subst same
  have cloned : ∀ fields, { r with source := b }.clone e inner' fields =
    r.clone e inner' fields := by
    intro fields
    funext item
    simp only [clone, enhance_eq_of_agree agree]
  simp only [resolveElement, expandBinding, select_eq_of_agree agree, cloned]

mutual
theorem resolveLayer_eq_of_agree (agree : r.source.AgreeOn r.variant b) :
    ∀ (l : Layer) (scope : Option Given), { r with source := b }.resolveLayer l scope =
      r.resolveLayer l scope
  | ⟨e, children⟩, scope => by
    have same : (fun scope => { r with source := b }.resolveForest children scope) =
        fun scope => r.resolveForest children scope :=
          funext (resolveForest_eq_of_agree agree children)
    simp only [resolveLayer]
    exact resolveElement_eq_of_agree agree e same scope

theorem resolveForest_eq_of_agree (agree : r.source.AgreeOn r.variant b) :
    ∀ (ls : List Layer) (scope : Option Given), { r with source := b }.resolveForest ls scope =
      r.resolveForest ls scope
  | [], scope => by simp only [resolveForest]
  | l :: ls, scope => by
    simp only [resolveForest, resolveLayer_eq_of_agree agree l, resolveForest_eq_of_agree agree ls]
end

end Resolver

theorem Page.resolve_eq_of_agree {r : Resolver} {b : DataSource}
    (agree : r.source.AgreeOn r.variant b) (p : Page) :
    p.resolve { r with source := b } = p.resolve r := by
  have values : p.itemValues { r with source := b } = p.itemValues r := by
    unfold itemValues
    cases p.item with
    | none => rfl
    | some item => simp only [Resolver.enhance_eq_of_agree agree]
  simp only [resolve, values, Resolver.resolveForest_eq_of_agree agree, finish]

/-- What a page is resolved to, the warnings on the way and the failure, if there is one, depend on
    one variant of the collections only. -/
theorem resolve_reads_one_variant (a b : Repository) (v : Variant)
    (same : a.collections v = b.collections v) (p : Page) (r : Resolver) :
    p.resolve { r with source := a.source, variant := v } =
      p.resolve { r with source := b.source, variant := v } := by
  have agree : b.source.AgreeOn v a.source := Repository.source_agreeOn same.symm
  exact Page.resolve_eq_of_agree (r := { r with source := b.source, variant := v }) agree p

def live : Repository :=
  ({} : Repository).add "posts" [{ id := "title" }]
    [{ id := "p1", collectionId := "posts", values := [("title", "One")] }]
    (some .published)

def edited : Repository :=
  live.add "posts" [{ id := "title" }]
    [{ id := "p1", collectionId := "posts", values := [("title", "Draft")] }]
    (some .draft)

def titles : Page where
  layers := [{
    id := "posts"
    bindings :=
      { text := some (.field { fieldId := "title" }), collection := some { id := "posts" } } }]

theorem titles_unaffected_by_drafts :
    live.collections .published = edited.collections .published ∧
    (titles.resolve { source := edited.source, variant := .draft }).result.toOption ≠
      (titles.resolve { source := edited.source, variant := .published }).result.toOption ∧
    titles.resolve { source := live.source, variant := .published } =
      titles.resolve { source := edited.source, variant := .published } := by
  have same : live.collections .published = edited.collections .published := by decide +kernel
  have differ : (titles.resolve { source := edited.source, variant := .draft }).result.toOption ≠
      (titles.resolve { source := edited.source, variant := .published }).result.toOption := by
        decide +kernel
  exact ⟨same, differ, resolve_reads_one_variant live edited .published same titles
    { source := live.source }⟩

end PageLayers
