import Mathlib.Algebra.GroupWithZero.Nat
import PageLayers.Proofs.PageCount
import PageLayers.Proofs.Pages

/-!
What the recorded total of a paged layer tells about its pages. The total is that of the items that
the binding may show, before the filters see them. It is the number of clones on all pages if the
filters let everything pass, and only then.
-/

namespace PageLayers
namespace Resolver

variable {r : Resolver} {repo : Repository} {l : Layer} {s : CollectionSource}
    {scope : Option Values} {allowed : Option (List String)} {size p : Nat}

theorem ShowsPages.sum_lengths {visits : Nat → Resolver} {items : Nat → List Item}
    {clones : Nat → List Layer}
    (shown : r.ShowsPages repo l s scope allowed size visits items clones)
    (perm : ∀ p, (items p).Perm (r.passing repo s allowed size p)) {n : Nat}
    (enough : (r.listed repo s allowed).length ≤ n * size)
    (told : (FetchWindow.ofPage size n).Told (r.listed repo s allowed).length) :
    ((List.range n).map fun i => (clones (i + 1)).length).sum =
      ((r.listed repo s allowed).filter (r.passes s)).length := by
  have lengths : ∀ i ∈ List.range n,
      (clones (i + 1)).length = (r.passing repo s allowed size (i + 1)).length := by
    intro i member
    have page := shown (i + 1) (Nat.le_add_left 1 i) (told.mono (List.mem_range.mp member))
    exact page.2.length_eq.symm.trans (perm (i + 1)).length_eq
  rw [← flatMap_passing r repo s allowed enough, List.length_flatMap]
  exact congrArg List.sum (List.map_congr_left lengths)

theorem ShowsPages.shows_iff {visits : Nat → Resolver} {items : Nat → List Item}
    {clones : Nat → List Layer}
    (shown : r.ShowsPages repo l s scope allowed size visits items clones)
    (perm : ∀ p, (items p).Perm (r.passing repo s allowed size p)) (first : 1 ≤ p)
    (told : (FetchWindow.ofPage size p).Told (r.listed repo s allowed).length) :
    clones p ≠ [] ↔ ∃ item ∈ pageOf size p (r.listed repo s allowed), r.passes s item = true := by
  have lengths : (clones p).length = (r.passing repo s allowed size p).length :=
    (shown p first told).2.length_eq.symm.trans (perm p).length_eq
  rw [← List.length_pos_iff, lengths, List.length_pos_iff, passing, Ne, List.filter_eq_nil_iff]
  simp

theorem pageOf_ne_nil_iff {α : Type} {size p : Nat} {items : List α} (positive : 0 < size) :
    pageOf size p items ≠ [] ↔ (p - 1) * size < items.length := by
  rw [← List.length_pos_iff, pageOf, List.length_take, List.length_drop]
  omega

/-- The total that all pages record counts the items before the filters, and the clones on all pages
    are those of the items that pass. The two are the same exactly if the filters let all items
    pass. A page shows a clone exactly if an item at its places passes; if all items pass, these are
    the pages that start before the end of the list, and all that are counted. All this is said of
    pages whose numbers can be told. -/
theorem total_counts_items_before_filters (lists : r.Lists repo l s scope allowed)
    (paged : s.perPage? r.settings = some size) (positive : 0 < size)
    (request : Nat → Pagination.Request)
    (shuffle : Nat → List Item → List Item) (asks : ∀ p, 1 ≤ p → (request p).pageFor l.id = p)
    (shuffles : ∀ p items, (shuffle p items).Perm items)
    (builds : ∀ p, 1 ≤ p → (r.visit (request p) (shuffle p)).Builds repo l s allowed) :
    ∃ clones : Nat → List Layer, ∃ total : Nat,
      (∀ p, 1 ≤ p → (FetchWindow.ofPage size p).Told total →
        ((r.visit (request p) (shuffle p)).resolveLayer l (scope.map Given.ofValues)).result =
          .ok ⟨fragmentElement l.toElement (some
            { layerId := l.id, collectionId := s.id, currentPage := p, totalPages :=
              Pagination.pageCount total size,
              totalItems := total, itemsPerPage := size }), clones p⟩) ∧
      total = (r.listed repo s allowed).length ∧
      (∀ n, total ≤ n * size → (FetchWindow.ofPage size n).Told total →
        ((List.range n).map fun i => (clones (i + 1)).length).sum =
          ((r.listed repo s allowed).filter (r.passes s)).length ∧
        (((List.range n).map fun i => (clones (i + 1)).length).sum = total ↔
          ∀ item ∈ r.listed repo s allowed, r.passes s item = true)) ∧
      (∀ p, 1 ≤ p → (FetchWindow.ofPage size p).Told total →
        (clones p ≠ [] ↔ ∃ item ∈ pageOf size p (r.listed repo s allowed),
          r.passes s item = true)) ∧
      ((∀ item ∈ r.listed repo s allowed, r.passes s item = true) → ∀ p, 1 ≤ p →
        ((FetchWindow.ofPage size p).Told total → (clones p ≠ [] ↔ (p - 1) * size < total)) ∧
        ((FetchWindow.ofPage size 1).Told total → total < 2 ^ 53 →
          p ≤ Pagination.pageCount total size →
          clones p ≠ [])) := by
  obtain ⟨clones, shown⟩ := lists.exists_pages paged positive request shuffle asks builds
  have perm :
    ∀ p,
      (r.sorter.sortItems (shuffle p) (.ofText s.sortBy) s.sortOrder
        (r.passing repo s allowed size p)).Perm
      (r.passing repo s allowed size p) := fun p => sortItems_perm (shuffles p) _ _ _ _
  refine ⟨clones, _, fun p first told => (shown p first told).1, rfl, fun n enough told => ?_,
    fun p => shown.shows_iff perm, ?_⟩
  · have sum := shown.sum_lengths perm enough told
    exact ⟨sum, by rw [sum, List.length_filter_eq_length_iff]⟩
  · intro all p first
    have started : (FetchWindow.ofPage size p).Told (r.listed repo s allowed).length →
        (clones p ≠ [] ↔ (p - 1) * size < (r.listed repo s allowed).length) := by
      intro told
      rw [shown.shows_iff perm first told, ← pageOf_ne_nil_iff positive]
      constructor
      · rintro ⟨item, onPage, _⟩
        exact List.ne_nil_of_mem onPage
      · intro nonempty
        obtain ⟨item, onPage⟩ := List.exists_mem_of_ne_nil _ nonempty
        exact ⟨item, onPage, all item ((pageOf_sublist size p _).subset onPage)⟩
    refine ⟨started, fun told few counted => ?_⟩
    have start := Pagination.page_starts_before_end positive few first counted
    exact (started (told.of_started positive start)).mpr start

end Resolver

def topRank : Visibility.Expression :=
  { groups :=
    [{ conditions := [{ fieldId := some "rank", operator := "is", value := some "1" }] }] }

theorem filtered_songs_are_counted :
    ∃ clones : Nat → List Layer,
      (∀ p, 1 ≤ p → (FetchWindow.ofPage 1 p).Told 2 →
        ((Resolver.visit { source := charts.source } { defaultPage := some p } id).resolveLayer
          (songLayer (songPages none (some topRank))) none).result =
        .ok ⟨Resolver.fragmentElement (songLayer (songPages none (some topRank))).toElement (some
          { layerId := "songs", collectionId := "songs", currentPage := p, totalPages := 2,
            totalItems := 2,
            itemsPerPage := 1 }), clones p⟩) ∧
      clones 1 = [] ∧ (clones 2).map (·.itemId) = [some "s2"] ∧
      ∀ p, 3 ≤ p → (FetchWindow.ofPage 1 p).Told 2 → clones p = [] := by
  have listed := charts_listed (s := songPages none (some topRank)) rfl
  obtain ⟨clones, shown⟩ := (charts_lists (s := songPages none (some topRank)) rfl rfl).exists_pages
    (show _ = some 1 from rfl) Nat.one_pos (fun p => { defaultPage := some p }) (fun _ => id)
      (fun _ _ => rfl)
    fun p _ => charts_builds rfl _ (fun items => .refl (id items)) (by decide +kernel)
  have count : Pagination.pageCount [song "s1" "2", song "s2" "1"].length 1 = 2 := by decide +kernel
  unfold Resolver.ShowsPages at shown
  rw [listed] at shown
  have ids : ∀ p, 1 ≤ p → (FetchWindow.ofPage 1 p).Told 2 → (clones p).map (·.itemId) =
      ((pageOf 1 p [song "s1" "2", song "s2" "1"]).filter
        (Resolver.passes { source := charts.source } (songPages none (some topRank)))).map
          fun item => some item.id := by
    intro p first told
    rw [← listed]
    exact (shown p first told).2.ids
  refine ⟨clones, fun p first told => ?_, ?_,
    (ids 2 (by decide) (by decide +kernel)).trans (by decide +kernel),
    fun p past told => ?_⟩
  · have resolved := (shown p first told).1
    rw [count] at resolved
    exact resolved
  · exact List.map_eq_nil_iff.mp ((ids 1 (by decide) (by decide +kernel)).trans (by decide +kernel))
  · have page := ids p (by omega) told
    rw [pageOf_eq_nil (show _ ≤ (p - 1) * 1 by simp; omega)] at page
    exact List.map_eq_nil_iff.mp page

theorem all_songs_are_counted :
    ∃ clones : Nat → List Layer,
      (∀ p, 1 ≤ p → (FetchWindow.ofPage 1 p).Told 2 →
        ∃ d, ((Resolver.visit { source := charts.source } { defaultPage := some p } id).resolveLayer
          (songLayer (songPages none none)) none).result = .ok d ∧ d.children = clones p ∧
            d.pagination.map (·.totalItems) = some 2) ∧
      ((List.range 2).map fun i => (clones (i + 1)).length).sum = 2 ∧ clones 1 ≠ [] ∧
      clones 2 ≠ [] := by
  have listed := charts_listed (s := songPages none none) rfl
  have count : Pagination.pageCount 2 1 = 2 := by decide +kernel
  obtain ⟨clones, total, resolved, counted, sums, _, pages⟩ :=
    Resolver.total_counts_items_before_filters
    (charts_lists (s := songPages none none) rfl rfl) (show _ = some 1 from rfl) Nat.one_pos
    (fun p => { defaultPage := some p }) (fun _ => id) (fun _ _ => rfl)
      (fun _ items => .refl (id items))
    fun p _ => charts_builds rfl _ (fun items => .refl (id items)) (by simp [songPages])
  have two : total = 2 := counted.trans (by rw [listed]; rfl)
  subst two
  have all : ∀ item ∈ Resolver.listed { source := charts.source } charts (songPages none none) none,
      Resolver.passes { source := charts.source } (songPages none none) item = true :=
        fun _ _ => rfl
  refine ⟨clones, fun p first told => ⟨_, resolved p first told, rfl, rfl⟩,
    (sums 2 (by decide) (by decide +kernel)).2.mpr all, ?_, ?_⟩
  · exact (pages all 1 (by decide)).2 (by decide +kernel) (by decide) (by rw [count]; decide)
  · exact (pages all 2 (by decide)).2 (by decide +kernel) (by decide) (by rw [count])

end PageLayers
