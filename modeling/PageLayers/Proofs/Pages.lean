import Mathlib.Data.Option.Basic
import PageLayers.Proofs.FragmentWalk
import PageLayers.Proofs.Ids

/-!
Bound layers whose items are divided into pages. The pages of a list are its parts of one size, one
after the other, and each of its elements is on exactly one of them. A visit to a page shows the
restricted items of the collection that are on it, in their manual order, and pass the filters;
sorting and shuffling change their order only.
-/

namespace PageLayers

/-- The part of a list that is on a page, where the first page has the number one. -/
def pageOf {α : Type} (size p : Nat) (items : List α) :
    List α := (items.drop ((p - 1) * size)).take size

section pages
variable {α : Type} {size p : Nat} {items : List α} {x : α}

theorem pageOf_sublist (size p : Nat) (items : List α) : (pageOf size p items).Sublist items :=
  (List.take_sublist _ _).trans (List.drop_sublist _ _)

theorem length_pageOf_le (size p : Nat) (items : List α) : (pageOf size p items).length ≤ size := by
  rw [pageOf, List.length_take]
  exact Nat.min_le_left _ _

theorem pageOf_eq_nil (past : items.length ≤ (p - 1) * size) : pageOf size p items = [] := by
  rw [pageOf, List.drop_eq_nil_of_le past, List.take_nil]

theorem mem_pageOf_iff : x ∈ pageOf size p items ↔ ∃ i, i < size ∧
    items[(p - 1) * size + i]? = some x := by
  rw [pageOf, List.mem_iff_getElem?]
  constructor
  · rintro ⟨i, found⟩
    rw [List.getElem?_take, List.getElem?_drop] at found
    by_cases near : i < size
    · exact ⟨i, near, by rwa [if_pos near] at found⟩
    · simp [near] at found
  · rintro ⟨i, near, found⟩
    exact ⟨i, by rw [List.getElem?_take_of_lt near, List.getElem?_drop, found]⟩

theorem flatMap_pageOf (size n : Nat) (items : List α) :
    (List.range n).flatMap (fun i => pageOf size (i + 1) items) = items.take (n * size) := by
  induction n with
  | zero => simp
  | succ n ih =>
    rw [List.range_succ, List.flatMap_append, ih, List.flatMap_singleton, Nat.succ_mul,
      List.take_add]
    rfl

theorem existsUnique_page (positive : 0 < size) (once : items.Nodup) (member : x ∈ items) :
    ∃! p, 1 ≤ p ∧ x ∈ pageOf size p items := by
  obtain ⟨place, found⟩ := List.mem_iff_getElem?.mp member
  have split : (place / size + 1 - 1) * size + place % size = place := by
    rw [Nat.add_sub_cancel, Nat.mul_comm]
    exact Nat.div_add_mod place size
  refine ⟨place / size + 1, ⟨Nat.le_add_left 1 _, ?_⟩, ?_⟩
  · exact mem_pageOf_iff.mpr ⟨place % size, Nat.mod_lt place positive, by rw [split, found]⟩
  · rintro q ⟨first, onPage⟩
    obtain ⟨i, near, also⟩ := mem_pageOf_iff.mp onPage
    have inside : place < items.length := (List.getElem?_eq_some_iff.mp found).1
    have same : place = (q - 1) * size + i :=
      (List.getElem?_inj inside once).mp (found.trans also.symm)
    have quotient : place / size = q - 1 := by
      rw [same, Nat.mul_comm, Nat.mul_add_div positive, Nat.div_eq_of_lt near, Nat.add_zero]
    omega

end pages

def CollectionSource.perPage? (s : CollectionSource) (settings : Settings) : Option Nat :=
  s.paging?.map fun config => config.itemsPerPage.getD settings.defaultItemsPerPage

def Layer.shownIds (l : Layer) : List (Option String) := l.children.map (·.itemId)

def FetchWindow.ofPage (size p : Nat) : FetchWindow where
  limit := some size
  offset := some ((p - 1) * size)
  currentPage := p
  itemsPerPage := some size

section windows
variable {size p q total : Nat}

theorem FetchWindow.told_ofPage_iff : (FetchWindow.ofPage size p).Told total ↔
    (Number.isWritable total = true ∧ Number.isWritable p = true ∧ Number.isWritable size = true ∧
      Number.isWritable ((p - 1) * size : Nat) = true) ∧
    Binary64.isFiniteRatio total size = true := by
  have log : (FetchWindow.ofPage size p).isLoggable total = true ↔
      Number.isWritable total = true ∧ Number.isWritable p = true ∧ Number.isWritable size = true ∧
        Number.isWritable ((p - 1) * size : Nat) = true := by
    simp only [FetchWindow.isLoggable, FetchWindow.ofPage, Option.all_some, Bool.and_eq_true,
      and_assoc]
  have count : (FetchWindow.ofPage size p).isCountable total = true ↔
      Binary64.isFiniteRatio total size = true := by
    have own : (FetchWindow.ofPage size p).itemsPerPage = some size := rfl
    rw [FetchWindow.isCountable, own, Option.all_some, Int.natAbs_natCast]
  exact ⟨fun told => ⟨log.mp told.loggable, count.mp told.countable⟩,
    fun ⟨logged, counted⟩ => ⟨log.mpr logged, count.mpr counted⟩⟩

theorem FetchWindow.Told.mono (told : (FetchWindow.ofPage size q).Told total) (less : p ≤ q) :
    (FetchWindow.ofPage size p).Told total := by
  obtain ⟨⟨all, page, own, offset⟩, counted⟩ := FetchWindow.told_ofPage_iff.mp told
  have before : (p - 1) * size ≤ (q - 1) * size :=
    Nat.mul_le_mul_right size (Nat.sub_le_sub_right less 1)
  exact FetchWindow.told_ofPage_iff.mpr ⟨⟨all, Number.isWritable_of_le less page, own,
    Number.isWritable_of_le before offset⟩, counted⟩

theorem FetchWindow.Told.of_started (first : (FetchWindow.ofPage size 1).Told total)
    (positive : 0 < size)
    (started : (p - 1) * size < total) : (FetchWindow.ofPage size p).Told total := by
  obtain ⟨⟨all, one, own, _⟩, counted⟩ := FetchWindow.told_ofPage_iff.mp first
  have page : p - 1 ≤ (p - 1) * size := Nat.le_mul_of_pos_right _ positive
  refine FetchWindow.told_ofPage_iff.mpr ⟨⟨all, Number.isWritable_of_le ?_ all, own,
    Number.isWritable_of_le (Nat.le_of_lt started) all⟩, counted⟩
  omega

end windows

namespace Resolver

def listed (r : Resolver) (repo : Repository) (s : CollectionSource)
    (allowed : Option (List String)) : List Item :=
  restrictTo allowed (repo.ordered r.variant s.id)

/-- A layer is bound to a collection in memory, of which its scope allows it the items with the
    given ids. -/
structure Lists (r : Resolver) (repo : Repository) (l : Layer) (s : CollectionSource)
    (scope : Option Values) (allowed : Option (List String)) : Prop where
  memory : r.source = repo.source
  plain : l.isFragment = false
  binding : l.binding? = some s
  stored : ((repo.collections r.variant).lookup s.id).isSome = true
  restricted : s.restriction scope = .ok allowed

/-- Nothing fails when a bound layer is filtered and cloned. -/
structure Builds (r : Resolver) (repo : Repository) (l : Layer) (s : CollectionSource)
    (allowed : Option (List String)) :
    Prop where
  filters : r.FiltersRead repo l.id s allowed
  clones : ∀ item ∈ r.shownItems repo l.id s allowed,
    (r.cloneLayer l (repo.fields s.id r.variant) item).result.isOk = true

def ShowsItems (r : Resolver) (l : Layer) (fields : List Field) (items : List Item)
    (clones : List Layer) : Prop :=
  List.Forall₂ (fun item clone => clone.id = cloneId l.id item.id ∧ clone.itemId = some item.id ∧
    (r.cloneLayer l fields item).result = .ok clone) items clones

def visit (r : Resolver) (request : Pagination.Request) (shuffle : List Item → List Item) :
    Resolver :=
  { r with request, shuffle }

variable {r : Resolver} {repo : Repository} {l : Layer} {s : CollectionSource}
    {scope : Option Values} {allowed : Option (List String)} {size p : Nat}

theorem Lists.visit (lists : r.Lists repo l s scope allowed) (request : Pagination.Request)
    (shuffle : List Item → List Item) : (r.visit request shuffle).Lists repo l s scope allowed :=
  ⟨lists.memory, lists.plain, lists.binding, lists.stored, lists.restricted⟩

theorem showsItems_of_forall₂ {fields : List Field} {items : List Item} {clones : List Layer}
    (plain : l.isFragment = false)
    (each : List.Forall₂ (fun item clone => (r.cloneLayer l fields item).result = .ok clone) items
      clones) :
    r.ShowsItems l fields items clones := by
  refine each.imp fun item clone made => ?_
  obtain ⟨slug, values, _, _, same, _⟩ := clonesTo_of_clone plain made
  exact ⟨same.id, congrArg (·.itemId) same, made⟩

theorem Lists.resolves (lists : r.Lists repo l s scope allowed) (builds : r.Builds repo l s allowed)
    (told : (s.fetchWindow r.settings r.request l.id).Told (r.listed repo s allowed).length) :
    ∃ clones, (r.resolveLayer l (scope.map Given.ofValues)).result =
        .ok ⟨fragmentElement l.toElement
          ((s.fetchWindow r.settings r.request l.id).pageMeta l.id s.id
          (r.listed repo s allowed).length), clones⟩ ∧
      r.ShowsItems l (repo.fields s.id r.variant) (r.shownItems repo l.id s allowed) clones := by
  have selected : (r.select l.id s (scope.map Given.ofValues)).result = _ :=
    select_ok lists.memory lists.stored lists.restricted builds.filters told.loggable
  obtain ⟨clones, each⟩ := exists_forall₂ fun item shown => isOk_iff.mp (builds.clones item shown)
  refine ⟨clones, ?_, showsItems_of_forall₂ lists.plain each⟩
  have expanded : (r.expandLayer l s (scope.map Given.ofValues)).result =
      .ok ⟨fragmentElement l.toElement ((s.fetchWindow r.settings r.request l.id).pageMeta l.id s.id
        (r.listed repo s allowed).length), clones⟩ :=
    expandBinding_ok_iff.mpr
      ⟨_, clones, selected, Outcome.all_ok_iff.mpr (List.forall₂_map_left_iff.mpr each),
      told.countable, rfl⟩
  rw [resolveLayer_of_binding lists.plain lists.binding, expanded]

/-- A layer with a window that cannot be told stays bound, whatever its items are. -/
theorem Lists.keeps (lists : r.Lists repo l s scope allowed) (builds : r.Builds repo l s allowed)
    (untold : ¬ (s.fetchWindow r.settings r.request l.id).Told (r.listed repo s allowed).length) :
    (r.resolveLayer l (scope.map Given.ofValues)).result =
      Layer.mk l.toElement <$> (r.resolveForest l.children (scope.map Given.ofValues)).result := by
  rw [resolveLayer_of_binding lists.plain lists.binding]
  cases loggable :
    (s.fetchWindow r.settings r.request l.id).isLoggable (r.listed repo s allowed).length with
  | false =>
    have unselected :=
      select_unloggable lists.memory lists.stored lists.restricted builds.filters loggable
    rw [expandBinding_error_iff.mpr (.inl unselected)]
    rfl
  | true =>
    have selected := select_ok lists.memory lists.stored lists.restricted builds.filters loggable
    obtain ⟨clones, each⟩ := exists_forall₂ fun item shown => isOk_iff.mp (builds.clones item shown)
    have uncountable :
      (s.fetchWindow r.settings r.request l.id).isCountable (r.listed repo s allowed).length =
        false :=
      Bool.eq_false_iff.mpr fun countable => untold ⟨loggable, countable⟩
    rw [expandBinding_error_iff.mpr (.inr ⟨_, selected, .inr
      ⟨⟨clones, Outcome.all_ok_iff.mpr (List.forall₂_map_left_iff.mpr each)⟩, uncountable, rfl⟩⟩)]
    rfl

theorem Lists.resolves_static (lists : r.Lists repo l s scope allowed) (static : s.paging? = none)
    (builds : r.Builds repo l s allowed)
    (told : (s.fetchWindow r.settings r.request l.id).Told (r.listed repo s allowed).length) :
    ∃ clones, (r.resolveLayer l (scope.map Given.ofValues)).result =
      .ok ⟨fragmentElement l.toElement none, clones⟩ ∧
      r.ShowsItems l (repo.fields s.id r.variant) (r.shownItems repo l.id s allowed) clones := by
  have resolved := lists.resolves builds told
  have unpaged :
      (s.fetchWindow r.settings r.request l.id).pageMeta l.id s.id
        (r.listed repo s allowed).length = none := by
    simp only [CollectionSource.fetchWindow, static, FetchWindow.pageMeta, Option.map_none]
  rwa [unpaged] at resolved

theorem fetchWindow_of_paged (paged : s.perPage? r.settings = some size) {layerId : String}
    (page : r.request.pageFor layerId = p) : s.fetchWindow r.settings r.request layerId =
      .ofPage size p := by
  obtain ⟨config, found, rfl⟩ := Option.map_eq_some_iff.mp paged
  simp only [CollectionSource.fetchWindow, found, page, FetchWindow.ofPage]

theorem fetchedItems_of_paged (paged : s.perPage? r.settings = some size) (positive : 0 < size)
    {layerId : String} (page : r.request.pageFor layerId = p) :
    r.fetchedItems repo layerId s allowed = pageOf size p (r.listed repo s allowed) := by
  obtain ⟨n, rfl⟩ := Nat.exists_eq_add_of_lt positive
  rw [fetchedItems, fetchWindow_of_paged paged page]
  rfl

theorem pageMeta_ofPage (layerId collectionId : String) (size p total : Nat) :
    (FetchWindow.ofPage size p).pageMeta layerId collectionId total =
      some { layerId, collectionId, currentPage := p,
             totalPages := Pagination.pageCount total size, totalItems := total,
             itemsPerPage := size } := by
  have counted : Pagination.signedPageCount total size = Pagination.pageCount total size := by
    rw [Pagination.signedPageCount, if_neg (Int.not_lt.mpr (Int.natCast_nonneg total)),
      Int.natAbs_natCast]
  simp only [FetchWindow.ofPage, FetchWindow.pageMeta, Option.map_some, counted]

def passing (r : Resolver) (repo : Repository) (s : CollectionSource)
    (allowed : Option (List String)) (size p : Nat) : List Item :=
  (pageOf size p (r.listed repo s allowed)).filter (r.passes s)

theorem Lists.resolves_page (lists : r.Lists repo l s scope allowed)
    (paged : s.perPage? r.settings = some size)
    (positive : 0 < size) (page : r.request.pageFor l.id = p) (builds : r.Builds repo l s allowed)
    (told : (FetchWindow.ofPage size p).Told (r.listed repo s allowed).length) :
    ∃ clones, (r.resolveLayer l (scope.map Given.ofValues)).result =
        .ok ⟨fragmentElement l.toElement (some
          { layerId := l.id, collectionId := s.id, currentPage := p,
            totalPages := Pagination.pageCount (r.listed repo s allowed).length size,
            totalItems := (r.listed repo s allowed).length, itemsPerPage := size }), clones⟩ ∧
      r.ShowsItems l (repo.fields s.id r.variant)
        (r.sorter.sortItems r.shuffle (.ofText s.sortBy) s.sortOrder
          (r.passing repo s allowed size p)) clones := by
  have window := fetchWindow_of_paged paged page
  have resolved := lists.resolves builds (window ▸ told)
  rw [window, pageMeta_ofPage] at resolved
  rw [passing, ← fetchedItems_of_paged paged positive page]
  exact resolved

/-- Visits to the pages of a bound layer that can be told find fragments with clones for these
    items. -/
def ShowsPages (r : Resolver) (repo : Repository) (l : Layer) (s : CollectionSource)
    (scope : Option Values) (allowed : Option (List String)) (size : Nat) (visits : Nat → Resolver)
    (items : Nat → List Item) (clones : Nat → List Layer) : Prop :=
  ∀ p, 1 ≤ p → (FetchWindow.ofPage size p).Told (r.listed repo s allowed).length →
    ((visits p).resolveLayer l (scope.map Given.ofValues)).result =
      .ok ⟨fragmentElement l.toElement (some
      { layerId := l.id, collectionId := s.id, currentPage := p,
        totalPages := Pagination.pageCount (r.listed repo s allowed).length size,
        totalItems := (r.listed repo s allowed).length, itemsPerPage := size }), clones p⟩ ∧
    (visits p).ShowsItems l (repo.fields s.id r.variant) (items p) (clones p)

theorem Lists.exists_pages (lists : r.Lists repo l s scope allowed)
    (paged : s.perPage? r.settings = some size)
    (positive : 0 < size) (request : Nat → Pagination.Request)
    (shuffle : Nat → List Item → List Item) (asks : ∀ p, 1 ≤ p → (request p).pageFor l.id = p)
    (builds : ∀ p, 1 ≤ p → (r.visit (request p) (shuffle p)).Builds repo l s allowed) :
    ∃ clones, r.ShowsPages repo l s scope allowed size (fun p => r.visit (request p) (shuffle p))
      (fun p => r.sorter.sortItems (shuffle p) (.ofText s.sortBy) s.sortOrder
        (r.passing repo s allowed size p))
      clones := by
  have each : ∀ p, ∃ clones, 1 ≤ p →
      (FetchWindow.ofPage size p).Told (r.listed repo s allowed).length → _ := fun p => by
    by_cases both : 1 ≤ p ∧ (FetchWindow.ofPage size p).Told (r.listed repo s allowed).length
    · obtain ⟨clones, shown⟩ := (lists.visit (request p) (shuffle p)).resolves_page paged positive
        (asks p both.1)
        (builds p both.1) both.2
      exact ⟨clones, fun _ _ => shown⟩
    · exact ⟨[], fun first told => absurd ⟨first, told⟩ both⟩
  choose clones shown using each
  exact ⟨clones, shown⟩

theorem flatMap_passing (r : Resolver) (repo : Repository) (s : CollectionSource)
    (allowed : Option (List String)) {n : Nat}
    (enough : (r.listed repo s allowed).length ≤ n * size) :
    (List.range n).flatMap (fun i => r.passing repo s allowed size (i + 1)) =
      (r.listed repo s allowed).filter (r.passes s) := by
  unfold passing
  rw [← List.filter_flatMap, flatMap_pageOf, List.take_of_length_le enough]

theorem listed_ids_nodup (keyed : repo.Keyed) (s : CollectionSource)
    (allowed : Option (List String)) : ((r.listed repo s allowed).map (·.id)).Nodup := by
  unfold listed Repository.ordered
  cases found : (repo.collections r.variant).lookup s.id with
  | none => cases allowed <;> simp [restrictTo]
  | some stored =>
    have once := (keyed r.variant _ (Repository.mem_of_lookup found)).page_nodup
      { itemIds := allowed }
    simpa [Stored.page, ItemQuery.window, Stored.select_eq] using once

theorem eq_of_id_eq (keyed : repo.Keyed) {item other : Item}
    (member : item ∈ r.listed repo s allowed)
    (also : other ∈ r.listed repo s allowed) (same : item.id = other.id) : item = other :=
  List.inj_on_of_nodup_map (listed_ids_nodup keyed s allowed) member also same

theorem ShowsItems.ids {fields : List Field} {items : List Item} {clones : List Layer}
    (shows : r.ShowsItems l fields items clones) : clones.map (·.itemId) = items.map fun item =>
      some item.id := by
  induction shows with
  | nil => rfl
  | cons first _ ih => rw [List.map_cons, List.map_cons, first.2.1, ih]

theorem Lists.shownIds (lists : r.Lists repo l s scope allowed) (builds : r.Builds repo l s allowed)
    (told : (s.fetchWindow r.settings r.request l.id).Told (r.listed repo s allowed).length) :
    (r.resolveLayer l (scope.map Given.ofValues)).result.map Layer.shownIds =
      .ok ((r.shownItems repo l.id s allowed).map fun item => some item.id) := by
  obtain ⟨clones, resolved, shows⟩ := lists.resolves builds told
  rw [resolved, ← shows.ids]
  rfl

theorem stamps_eq_iff (keyed : repo.Keyed) {items others : List Item}
    (within : items ⊆ r.listed repo s allowed) (also : others ⊆ r.listed repo s allowed) :
    (items.map fun item => some item.id) = (others.map fun item => some item.id) ↔
      items = others := by
  constructor
  · intro same
    induction items generalizing others with
    | nil => exact (List.map_eq_nil_iff.mp same.symm).symm
    | cons item items ih =>
      cases others with
      | nil => simp at same
      | cons other others =>
        obtain ⟨heads, tails⟩ := List.cons.inj same
        have first :=
          eq_of_id_eq keyed (within (List.mem_cons_self ..)) (also (List.mem_cons_self ..))
            (Option.some.inj heads)
        have rest := ih (List.subset_of_cons_subset within) (List.subset_of_cons_subset also) tails
        rw [first, rest]
  · rintro rfl
    rfl

theorem ShowsItems.shows_iff {fields : List Field} {items : List Item} {clones : List Layer}
    (shows : r.ShowsItems l fields items clones) (id : String) :
    (∃ clone ∈ clones, clone.itemId = some id) ↔ ∃ item ∈ items, item.id = id := by
  have same : some id ∈ clones.map (·.itemId) ↔ some id ∈ items.map fun item => some item.id := by
    rw [shows.ids]
  simpa using same

theorem passing_sublist (r : Resolver) (repo : Repository) (s : CollectionSource)
    (allowed : Option (List String))
    (size p : Nat) : (r.passing repo s allowed size p).Sublist (r.listed repo s allowed) :=
  List.filter_sublist.trans (pageOf_sublist size p _)

theorem sorted_passing_ids_nodup (keyed : repo.Keyed) {shuffle : List Item → List Item}
    (shuffles : ∀ items, (shuffle items).Perm items) (s : CollectionSource)
    (allowed : Option (List String)) (size p : Nat) :
    ((r.sorter.sortItems shuffle (.ofText s.sortBy) s.sortOrder
      (r.passing repo s allowed size p)).map (·.id)).Nodup := by
  rw [((sortItems_perm shuffles _ _ _ _).map _).nodup_iff]
  exact (listed_ids_nodup keyed s allowed).sublist ((passing_sublist r repo s allowed size p).map _)

theorem Lists.shown_iff (lists : r.Lists repo l s scope allowed) (keyed : repo.Keyed)
    (paged : s.perPage? r.settings = some size) (positive : 0 < size)
    (page : r.request.pageFor l.id = p)
    (shuffles : ∀ items, (r.shuffle items).Perm items) (builds : r.Builds repo l s allowed)
    (told : (FetchWindow.ofPage size p).Told (r.listed repo s allowed).length) {item : Item}
    (member : item ∈ r.listed repo s allowed) (passes : r.passes s item = true) :
    (∃ d, (r.resolveLayer l (scope.map Given.ofValues)).result = .ok d ∧
      ∃ clone ∈ d.children, clone.itemId = some item.id) ↔
      item ∈ pageOf size p (r.listed repo s allowed) := by
  have reordered := sortItems_perm shuffles (.ofText s.sortBy) s.sortOrder
    (r.passing repo s allowed size p) r.sorter
  obtain ⟨clones, resolved, shows⟩ := lists.resolves_page paged positive page builds told
  constructor
  · rintro ⟨d, done, found⟩
    rw [resolved, Except.ok.injEq] at done
    subst done
    obtain ⟨other, shown, same⟩ := (shows.shows_iff item.id).mp found
    have also := reordered.mem_iff.mp shown
    have eq := eq_of_id_eq keyed ((passing_sublist r repo s allowed size p).subset also) member same
    exact eq ▸ (List.mem_filter.mp also).1
  · intro onPage
    have shown := reordered.mem_iff.mpr (List.mem_filter.mpr ⟨onPage, passes⟩)
    exact ⟨_, resolved, (shows.shows_iff item.id).mpr ⟨item, shown, rfl⟩⟩

theorem builds_of_listed (shuffles : ∀ items, (r.shuffle items).Perm items)
    (filters : ∀ x ∈ s.filters, x.isEmpty = false → ∀ item ∈ r.listed repo s allowed,
      (r.evaluator x { itemValues := some item.values }).isOk = true)
    (clones : ∀ item ∈ r.listed repo s allowed,
      (r.cloneLayer l (repo.fields s.id r.variant) item).result.isOk = true) :
    r.Builds repo l s allowed := by
  have fetched : r.fetchedItems repo l.id s allowed ⊆ r.listed repo s allowed := by
    unfold fetchedItems FetchWindow.cut
    split
    · exact List.drop_subset _ _
    · exact List.drop_subset _ _
    · exact List.Subset.trans (List.take_subset _ _) (List.drop_subset _ _)
  constructor
  · exact fun x given nonempty item member => filters x given nonempty item (fetched member)
  · intro item shown
    have passed := (sortItems_perm shuffles _ _ _ _).mem_iff.mp shown
    exact clones item (fetched (List.mem_filter.mp passed).1)

/-- Over all visits to pages whose numbers can be told, each item that the filters let pass is shown
    on one page, and once. A page shows the items at its places in the list that pass, no more of
    them than its size; after the last page nothing is shown but the state of the pages. On a page
    whose numbers cannot be told the layer stays bound. -/
theorem pages_show_each_item_once (lists : r.Lists repo l s scope allowed) (keyed : repo.Keyed)
    (paged : s.perPage? r.settings = some size) (positive : 0 < size)
    (request : Nat → Pagination.Request)
    (shuffle : Nat → List Item → List Item) (asks : ∀ p, 1 ≤ p → (request p).pageFor l.id = p)
    (shuffles : ∀ p items, (shuffle p items).Perm items) :
    (∀ p, 1 ≤ p → (r.visit (request p) (shuffle p)).Builds repo l s allowed →
      (FetchWindow.ofPage size p).Told (r.listed repo s allowed).length →
      ∃ items clones,
        ((r.visit (request p) (shuffle p)).resolveLayer l (scope.map Given.ofValues)).result =
          .ok ⟨fragmentElement l.toElement (some
            { layerId := l.id, collectionId := s.id, currentPage := p,
              totalPages := Pagination.pageCount (r.listed repo s allowed).length size,
              totalItems := (r.listed repo s allowed).length, itemsPerPage := size }), clones⟩ ∧
        (r.visit (request p) (shuffle p)).ShowsItems l (repo.fields s.id r.variant) items clones ∧
        items.Perm ((pageOf size p (r.listed repo s allowed)).filter (r.passes s)) ∧
        (clones.map (·.itemId)).Nodup ∧ clones.length ≤ size ∧
        ((r.listed repo s allowed).length ≤ (p - 1) * size → clones = [])) ∧
    ((FetchWindow.ofPage size 1).Told (r.listed repo s allowed).length →
      (∀ p, 1 ≤ p → (r.visit (request p) (shuffle p)).Builds repo l s allowed) →
      ∀ item ∈ r.listed repo s allowed, r.passes s item = true →
        ∃! p, 1 ≤ p ∧ (FetchWindow.ofPage size p).Told (r.listed repo s allowed).length ∧
          ∃ d,
            ((r.visit (request p) (shuffle p)).resolveLayer l (scope.map Given.ofValues)).result =
              .ok d ∧
            ∃ clone ∈ d.children, clone.itemId = some item.id) ∧
    ∀ p, 1 ≤ p → (r.visit (request p) (shuffle p)).Builds repo l s allowed →
      ¬ (FetchWindow.ofPage size p).Told (r.listed repo s allowed).length →
      ((r.visit (request p) (shuffle p)).resolveLayer l (scope.map Given.ofValues)).result =
        Layer.mk l.toElement <$>
          ((r.visit (request p) (shuffle p)).resolveForest l.children
            (scope.map Given.ofValues)).result := by
  refine ⟨?_, ?_, fun p first builds untold => ?_⟩
  · intro p first builds told
    obtain ⟨clones, resolved, shows⟩ :=
      (lists.visit (request p) (shuffle p)).resolves_page paged positive (asks p first) builds told
    have reordered :
      (r.sorter.sortItems (shuffle p) (.ofText s.sortBy) s.sortOrder
        (r.passing repo s allowed size p)).Perm
        (r.passing repo s allowed size p) := sortItems_perm (shuffles p) _ _ _ _
    have lengths : clones.length = (r.passing repo s allowed size p).length :=
      shows.length_eq.symm.trans reordered.length_eq
    refine ⟨_, clones, resolved, shows, reordered, ?_, ?_, ?_⟩
    · rw [shows.ids]
      have once := sorted_passing_ids_nodup (r := r) keyed (shuffles p) s allowed size p
      have stamped := once.map (Option.some_injective _)
      rw [List.map_map] at stamped
      exact stamped
    · calc clones.length
        _ = (r.passing repo s allowed size p).length := lengths
        _ ≤ (pageOf size p (r.listed repo s allowed)).length := List.length_filter_le _ _
        _ ≤ size := length_pageOf_le size p _
    · intro past
      have none : r.passing repo s allowed size p = [] := by
        rw [passing, pageOf_eq_nil past, List.filter_nil]
      exact List.eq_nil_of_length_eq_zero (lengths.trans (congrArg List.length none))
  · intro told builds item member passes
    have shown : ∀ p, 1 ≤ p → (FetchWindow.ofPage size p).Told (r.listed repo s allowed).length →
        (_ ↔ item ∈ pageOf size p (r.listed repo s allowed)) := fun p first toldHere =>
      (lists.visit (request p) (shuffle p)).shown_iff keyed paged positive (asks p first)
        (shuffles p) (builds p first)
        toldHere member passes
    obtain ⟨p, ⟨first, onPage⟩, unique⟩ :=
      existsUnique_page positive (listed_ids_nodup keyed s allowed).of_map member
    have started : (p - 1) * size < (r.listed repo s allowed).length := by
      by_contra past
      rw [pageOf_eq_nil (Nat.not_lt.mp past)] at onPage
      exact absurd onPage List.not_mem_nil
    have toldHere := told.of_started positive started
    refine ⟨p, ⟨first, toldHere, (shown p first toldHere).mpr onPage⟩, ?_⟩
    rintro q ⟨firstQ, toldQ, shownQ⟩
    exact unique q ⟨firstQ, (shown q firstQ toldQ).mp shownQ⟩
  · refine (lists.visit (request p) (shuffle p)).keeps builds ?_
    rw [fetchWindow_of_paged (r := r.visit (request p) (shuffle p)) paged (asks p first)]
    exact untold

end Resolver

def charts : Repository :=
  ({} : Repository).add "songs" [{ id := "rank" }]
    [{ id := "s1", collectionId := "songs", values := [("rank", "2")] },
      { id := "s2", collectionId := "songs", values := [("rank", "1")] }] none

def song (id rank : String) : Item := { id, collectionId := "songs", values := [("rank", rank)] }

def songPages (sortBy : Option String) (filters : Option Visibility.Expression) :
    CollectionSource where
  id := "songs"
  sortBy
  filters
  pagination := some { enabled := true, itemsPerPage := some 1 }

def songLayer (s : CollectionSource) : Layer where
  id := "songs"
  bindings := { text := some (.field { fieldId := "rank" }), collection := some s }

theorem charts_lists {s : CollectionSource} (named : s.id = "songs")
    (free : s.sourceFieldId = none) :
    Resolver.Lists { source := charts.source } charts (songLayer s) s none none where
  memory := rfl
  plain := rfl
  binding := by simp [Element.binding?, songLayer, named]
  stored := by
    rw [named]
    rfl
  restricted := by simp [CollectionSource.restriction, CollectionSource.sourceField?, free]

theorem charts_listed {s : CollectionSource} (named : s.id = "songs") :
    Resolver.listed { source := charts.source } charts s none = [song "s1" "2", song "s2" "1"] := by
  unfold Resolver.listed restrictTo Repository.ordered
  rw [named]
  exact List.mergeSort_of_pairwise (by decide)

theorem charts_builds {s : CollectionSource} (named : s.id = "songs") (request : Pagination.Request)
    {shuffle : List Item → List Item} (shuffles : ∀ items, (shuffle items).Perm items)
    (readable : ∀ x ∈ s.filters, x.isEmpty = false → ∀ item ∈ [song "s1" "2", song "s2" "1"],
      (x.eval { itemValues := some item.values }).isOk = true) :
    (Resolver.visit { source := charts.source } request shuffle).Builds charts
      (songLayer s) s none := by
  refine Resolver.builds_of_listed shuffles ?_ ?_
  · intro x given nonempty item member
    exact readable x given nonempty item (charts_listed named ▸ member)
  · intro item member
    have two : item ∈ [song "s1" "2", song "s2" "1"] := charts_listed named ▸ member
    have fields : charts.fields s.id .published = [{ id := "rank" }] := by
      rw [named]
      rfl
    change (Resolver.cloneLayer _ (songLayer s) (charts.fields s.id .published) item).result.isOk =
      true
    rw [fields]
    rcases List.mem_pair.mp two with rfl | rfl
    · rfl
    · rfl

theorem charts_shownIds {s : CollectionSource} (named : s.id = "songs")
    (free : s.sourceFieldId = none) (request : Pagination.Request)
    (readable : ∀ x ∈ s.filters, x.isEmpty = false → ∀ item ∈ [song "s1" "2", song "s2" "1"],
      (x.eval { itemValues := some item.values }).isOk = true)
        (told : (s.fetchWindow {} request "songs").Told 2) :
    ((Resolver.visit { source := charts.source } request id).resolveLayer
      (songLayer s) none).result.map Layer.shownIds =
      .ok ((sortItems id (.ofText s.sortBy) s.sortOrder (((s.fetchWindow {} request "songs").cut
        [song "s1" "2", song "s2" "1"]).filter (Resolver.passes { source := charts.source } s))).map
          fun item => some item.id) := by
  have builds := charts_builds named request (fun items => .refl (id items)) readable
  have listed := charts_listed named
  have total : (Resolver.listed { source := charts.source } charts s none).length = 2 :=
    congrArg List.length listed
  rw [← listed]
  refine ((charts_lists named free).visit request id).shownIds builds ?_
  change (s.fetchWindow {} request "songs").Told
    (Resolver.listed { source := charts.source } charts s none).length
  rw [total]
  exact told

theorem second_song_is_on_one_page :
    (∀ p, 3 ≤ p → (FetchWindow.ofPage 1 p).Told 2 → ∃ pagination,
      ((Resolver.visit { source := charts.source } { defaultPage := some p }
        List.reverse).resolveLayer
        (songLayer (songPages (some "random") none)) none).result =
          .ok ⟨Resolver.fragmentElement (songLayer (songPages (some "random") none)).toElement
            (some pagination), []⟩ ∧
        pagination.currentPage = p ∧ pagination.totalItems = 2) ∧
    ∃! p, 1 ≤ p ∧ (FetchWindow.ofPage 1 p).Told 2 ∧
      ∃ d,
        ((Resolver.visit { source := charts.source } { defaultPage := some p }
          List.reverse).resolveLayer
          (songLayer (songPages (some "random") none)) none).result = .ok d ∧
            ∃ clone ∈ d.children, clone.itemId = some "s2" := by
  have named : (songPages (some "random") none).id = "songs" := rfl
  have builds : ∀ p, 1 ≤ p →
    (Resolver.visit { source := charts.source } { defaultPage := some p } List.reverse).Builds
      charts
      (songLayer (songPages (some "random") none)) (songPages (some "random") none) none :=
    fun p _ => charts_builds named _ (fun items => items.reverse_perm) (by simp [songPages])
  have listed := charts_listed named
  obtain ⟨each, once, -⟩ := Resolver.pages_show_each_item_once (charts_lists named rfl)
    (Repository.keyed_add Repository.keyed_empty _ _ _ _) (show _ = some 1 from rfl) Nat.one_pos
    (fun p => { defaultPage := some p }) (fun _ => List.reverse) (fun _ _ => rfl)
      (fun _ items => items.reverse_perm)
  rw [listed] at each once
  constructor
  · intro p past told
    have first : 1 ≤ p := by omega
    obtain ⟨_, clones, resolved, _, _, _, _, empty⟩ := each p first (builds p first) told
    have none : clones = [] := empty (by simp; omega)
    rw [none] at resolved
    exact ⟨_, resolved, rfl, rfl⟩
  · exact once (by decide +kernel) builds (song "s2" "1") (by simp) rfl

def songsPerPage (places : Nat) : CollectionSource where
  id := "songs"
  pagination := some { enabled := true, itemsPerPage := some places }

theorem songsPerPage_builds (places : Nat) (request : Pagination.Request) :
    (Resolver.visit { source := charts.source } request id).Builds charts
      (songLayer (songsPerPage places))
      (songsPerPage places) none :=
  charts_builds rfl request (fun items => .refl (id items)) (by simp [songsPerPage])

theorem songs_stay_bound_past_end :
    ((Resolver.visit { source := charts.source } { defaultPage := some (Nat.pow 10 4300 - 1) }
      id).resolveLayer
      (songLayer (songsPerPage 10)) none).result = .ok (songLayer (songsPerPage 10)) := by
  obtain ⟨p, number⟩ : ∃ p, Nat.pow 10 4300 - 1 = p := ⟨_, rfl⟩
  have listed : Resolver.listed { source := charts.source } charts (songsPerPage 10) none = _ :=
    charts_listed rfl
  have untold : ¬ (FetchWindow.ofPage 10 p).Told 2 := number ▸ (by decide +kernel)
  rw [number]
  refine ((charts_lists (s := songsPerPage 10) rfl rfl).visit _ id).keeps
    (songsPerPage_builds 10 _) ?_
  rw [Resolver.fetchWindow_of_paged (show _ = some 10 from rfl) (show _ = p from rfl)]
  change ¬ (FetchWindow.ofPage 10 p).Told
    (Resolver.listed { source := charts.source } charts (songsPerPage 10) none).length
  rw [listed]
  exact untold

end PageLayers
