import PageLayers.Proofs.Bindings
import PageLayers.Store.Repository

/-!
Which items a binding shows when its collection is held in memory: the items in their manual order
are restricted to the ids that the scope allows, cut to the window, filtered and sorted, in this
order.
-/

namespace PageLayers

def CollectionSource.restriction (s : CollectionSource) (scope : Option Values) :
    Except Failure (Option (List String)) :=
  match s.sourceField?, scope with
  | some field, some values => some <$> References.decode (some s.sourceType) (values.lookup field)
  | _, _ => .ok none

def Repository.ordered (repo : Repository) (v : Variant) (id : String) : List Item :=
  match (repo.collections v).lookup id with
  | some stored => sortManually (stored.items.map (·.2))
  | none => []

def restrictTo (allowed : Option (List String)) (items : List Item) : List Item :=
  match allowed with
  | some ids => items.filter fun i => ids.contains i.id
  | none => items

/-- The items in the window: at most `limit` after the first `offset`. A limit of zero is none. -/
def FetchWindow.cut (w : FetchWindow) (items : List Item) : List Item :=
  match w.limit with
  | none | some 0 => items.drop (w.offset.getD 0)
  | some n => (items.drop (w.offset.getD 0)).take n

namespace Resolver

def fetchedItems (r : Resolver) (repo : Repository) (layerId : String) (s : CollectionSource)
    (allowed : Option (List String)) : List Item :=
  (s.fetchWindow r.settings r.request layerId).cut
    (restrictTo allowed (repo.ordered r.variant s.id))

def passes (r : Resolver) (s : CollectionSource) (item : Item) : Bool :=
  match s.filters with
  | none => true
  | some x =>
    x.isEmpty || match r.evaluator x { itemValues := some item.values } with
      | .ok holds => holds
      | .error _ => false

def shownItems (r : Resolver) (repo : Repository) (layerId : String) (s : CollectionSource)
    (allowed : Option (List String)) : List Item :=
  r.sorter.sortItems r.shuffle (.ofText s.sortBy) s.sortOrder
    ((r.fetchedItems repo layerId s allowed).filter (r.passes s))

/-- The filters of a binding can be evaluated on all items that it fetches. -/
def FiltersRead (r : Resolver) (repo : Repository) (layerId : String) (s : CollectionSource)
    (allowed : Option (List String)) : Prop :=
  ∀ x ∈ s.filters, x.isEmpty = false → ∀ item ∈ r.fetchedItems repo layerId s allowed,
    (r.evaluator x { itemValues := some item.values }).isOk = true

end Resolver

theorem isOk_iff {α : Type} {x : Except Failure α} : x.isOk = true ↔ ∃ a, x = .ok a := by
  cases x <;> simp [Except.isOk, Except.toBool]

theorem elementsFrom_text (ids : List String) (n : Nat) :
    Document.elementsFrom Document.text n (ids.map .text) = .ok ids := by
  induction ids generalizing n with
  | nil => rfl
  | cons id ids ih => simp [Document.elementsFrom, Document.text, ih]

theorem idTexts_texts (ids : List String) : idTexts (ids.map .text) = .ok ids := by
  simp [idTexts, Document.listOf, elementsFrom_text]

theorem allowedIds_ofValues (s : CollectionSource) (scope : Option Values) :
    s.allowedIds (scope.map Given.ofValues) = s.restriction scope := by
  unfold CollectionSource.allowedIds CollectionSource.allowedGiven CollectionSource.restriction
  cases s.sourceField? with
  | none => rfl
  | some field =>
    cases scope with
    | none => rfl
    | some values =>
      simp only [Option.map_some, Given.lookup_ofValues]
      cases stored : values.lookup field with
      | none =>
        simp [References.decodeGiven, References.decode, Json.isTruthy, Functor.map, Except.map,
          bind, Except.bind, pure, Except.pure, idTexts, Document.listOf, Document.elementsFrom]
      | some raw =>
        simp only [Option.map_some, Option.getD_some, References.decodeGiven]
        cases References.decode (some s.sourceType) (some raw) with
        | error cause => rfl
        | ok ids =>
          simp [Functor.map, Except.map, bind, Except.bind, pure, Except.pure, idTexts_texts]

/-- A stored value that names no items: it is missing, empty, or not the JSON text of a list where
    one is wanted. -/
def References.NamesNothing (type : FieldType) (raw : Option String) : Prop :=
  raw = none ∨ raw = some "" ∨
    type ≠ .reference ∧ ∃ text j, raw = some text ∧ Json.readStored? text.toList = .ok j ∧
    ∀ xs, j ≠ some (.array xs)

theorem References.decode_namesNothing {type : FieldType} {raw : Option String}
    (nothing : References.NamesNothing type raw) : References.decode (some type) raw = .ok [] := by
  rcases nothing with rfl | rfl | ⟨list, text, j, rfl, read, noList⟩
  · rfl
  · rfl
  · have single : some type ≠ some FieldType.reference := by simpa using list
    unfold References.decode References.decodeList
    by_cases empty : text = ""
    · simp [empty]
    · simp only [empty, single, ↓reduceIte, read]
      cases j with
      | none => rfl
      | some j => cases j <;> simp_all [References.ofJson]

theorem restriction_namesNothing {s : CollectionSource} {values : Values} {field : String}
    (source : s.sourceField? = some field)
    (nothing : References.NamesNothing s.sourceType (values.lookup field)) :
    s.restriction (some values) = .ok (some []) := by
  simp [CollectionSource.restriction, source, References.decode_namesNothing nothing, Functor.map,
    Except.map]

theorem restriction_none_iff {s : CollectionSource} {scope : Option Values} :
    s.restriction scope = .ok none ↔ s.sourceField? = none ∨ scope = none := by
  unfold CollectionSource.restriction
  cases s.sourceField? with
  | none => simp
  | some field =>
    cases scope with
    | none => simp
    | some values =>
      simp only [reduceCtorEq, or_self, iff_false]
      cases References.decode (some s.sourceType) (values.lookup field) <;>
        simp [Functor.map, Except.map]

theorem fetchedItems_nil (r : Resolver) (repo : Repository) (layerId : String)
    (s : CollectionSource) : r.fetchedItems repo layerId s (some []) = [] := by
  simp only [Resolver.fetchedItems, restrictTo, FetchWindow.cut]
  split <;> simp

theorem FetchWindow.query_window (w : FetchWindow) (allowed : Option (List String))
    (items : List Item) : (w.query allowed).window items = w.cut items := by
  have offset : (w.offset.filter (· ≠ 0)).getD 0 = w.offset.getD 0 := by
    cases w.offset with
    | none => rfl
    | some n => by_cases zero : n = 0 <;> simp [Option.filter, zero]
  simp only [FetchWindow.query, ItemQuery.window, FetchWindow.cut, offset]
  cases w.limit with
  | none => rfl
  | some n => cases n <;> rfl

theorem Stored.select_eq (stored : Stored) (query : ItemQuery) :
    stored.select query = restrictTo query.itemIds (sortManually (stored.items.map (·.2))) := by
  unfold Stored.select restrictTo
  cases query.itemIds <;> rfl

theorem items_of_stored {repo : Repository} {v : Variant} {id : String}
    (stored : ((repo.collections v).lookup id).isSome = true) (w : FetchWindow)
    (allowed : Option (List String)) :
    repo.items id v (w.query allowed) =
      .ok ⟨w.cut (restrictTo allowed (repo.ordered v id)),
        (restrictTo allowed (repo.ordered v id)).length⟩ := by
  obtain ⟨c, found⟩ := Option.isSome_iff_exists.mp stored
  have ids : (w.query allowed).itemIds = allowed := rfl
  simp only [Repository.items, Repository.ordered, found, Stored.page, Stored.select_eq, ids,
    w.query_window]

namespace Resolver

theorem filterItems_eq_filter (evaluator : Visibility.Evaluator) (x : Visibility.Expression)
    (items : List Item)
    (read : ∀ item ∈ items, (evaluator x { itemValues := some item.values }).isOk = true) :
    filterItems evaluator x items = .ok (items.filter fun item =>
      match evaluator x { itemValues := some item.values } with
      | .ok holds => holds
      | .error _ => false) := by
  induction items with
  | nil => rfl
  | cons item items ih =>
    obtain ⟨holds, value⟩ := isOk_iff.mp (read item (by simp))
    have rest := ih fun i member => read i (List.mem_cons_of_mem item member)
    cases holds <;> simp [filterItems, value, rest, bind, Except.bind, pure, Except.pure]

theorem applyFilters_eq_filter {r : Resolver} {repo : Repository} {layerId : String}
    {s : CollectionSource}
    {allowed : Option (List String)} (read : r.FiltersRead repo layerId s allowed) :
    applyFilters r.evaluator s.filters (r.fetchedItems repo layerId s allowed) =
      .ok ((r.fetchedItems repo layerId s allowed).filter (r.passes s)) := by
  unfold applyFilters passes
  cases filters : s.filters with
  | none => simp
  | some x =>
    cases empty : x.isEmpty with
    | true => simp [empty]
    | false =>
      have each := filterItems_eq_filter r.evaluator x _ (read x (by simp [filters]) empty)
      simpa [empty] using each

section memory
variable {r : Resolver} {repo : Repository} {layerId : String} {s : CollectionSource}
    {scope : Option Values} {allowed : Option (List String)}

theorem exists_fetched (memory : r.source = repo.source)
    (stored : ((repo.collections r.variant).lookup s.id).isSome = true)
    (restricted : s.restriction scope = .ok allowed) (read : r.FiltersRead repo layerId s allowed) :
    ∃ page, s.allowedIds (scope.map Given.ofValues) = .ok allowed ∧
      (r.source.items s.id r.variant
        ((s.fetchWindow r.settings r.request layerId).query allowed)).result = .ok page ∧
      (r.source.fields s.id r.variant).result = .ok (repo.fields s.id r.variant) ∧
      applyFilters r.evaluator s.filters page.items =
        .ok ((r.fetchedItems repo layerId s allowed).filter (r.passes s)) ∧
      page.total = (restrictTo allowed (repo.ordered r.variant s.id)).length := by
  have page := items_of_stored stored (s.fetchWindow r.settings r.request layerId) allowed
  refine ⟨⟨r.fetchedItems repo layerId s allowed, _⟩,
    (allowedIds_ofValues s scope).trans restricted, ?_, ?_,
    applyFilters_eq_filter read, rfl⟩
  · simp only [memory, Repository.source, page, fetchedItems]
  · simp only [memory, Repository.source]

theorem select_ok (memory : r.source = repo.source)
    (stored : ((repo.collections r.variant).lookup s.id).isSome = true)
    (restricted : s.restriction scope = .ok allowed) (read : r.FiltersRead repo layerId s allowed)
    (loggable : (s.fetchWindow r.settings r.request layerId).isLoggable
      (restrictTo allowed (repo.ordered r.variant s.id)).length = true) :
    (r.select layerId s (scope.map Given.ofValues)).result =
      .ok { window := s.fetchWindow r.settings r.request layerId
            total := (restrictTo allowed (repo.ordered r.variant s.id)).length
            fields := repo.fields s.id r.variant
            items := r.shownItems repo layerId s allowed } := by
  obtain ⟨page, ids, found, known, filtered, total⟩ := exists_fetched memory stored restricted read
  rw [← total] at loggable ⊢
  exact select_ok_iff.mpr ⟨_, page, _, ids, found, known, filtered, loggable, rfl, rfl, rfl⟩

theorem select_unloggable (memory : r.source = repo.source)
    (stored : ((repo.collections r.variant).lookup s.id).isSome = true)
    (restricted : s.restriction scope = .ok allowed) (read : r.FiltersRead repo layerId s allowed)
    (unloggable : (s.fetchWindow r.settings r.request layerId).isLoggable
      (restrictTo allowed (repo.ordered r.variant s.id)).length = false) :
    (r.select layerId s (scope.map Given.ofValues)).result = .error .oversizedInteger := by
  obtain ⟨page, ids, found, known, filtered, total⟩ := exists_fetched memory stored restricted read
  rw [← total] at unloggable
  exact select_of_unloggable ids found known filtered unloggable

end memory

end Resolver
end PageLayers
