import PageLayers.Proofs.FieldOrder
import PageLayers.Proofs.Pages

/-!
How a sort by a field agrees with windows. The window of a binding is cut from the manual order of
its items, and what is in the window is filtered and sorted afterwards. A window therefore shows its
own items in the order of the field, and the order holds over all windows exactly if it agrees with
the manual order wherever a page ends.
-/

namespace PageLayers
namespace Resolver

variable {r : Resolver} {repo : Repository} {l : Layer} {s : CollectionSource}
    {scope : Option Values} {allowed : Option (List String)} {size : Nat} {field : String}

/-- The pages sorted one by one and joined are the sorted list exactly if nothing on a later page
    comes before what is on an earlier one. -/
theorem flatMap_sorted_passing_iff
    (kind : OfOneKind ((r.listed repo s allowed).map (·.sortValue field))) {n : Nat}
    (enough : (r.listed repo s allowed).length ≤ n * size) :
    (List.range n).flatMap
      (fun i => sortByField r.sorter field s.sortOrder (r.passing repo s allowed size (i + 1))) =
        sortByField r.sorter field s.sortOrder ((r.listed repo s allowed).filter (r.passes s)) ↔
      ∀ p q, 1 ≤ p → p < q →
        s.sortOrder.Precede field (r.passing repo s allowed size p)
          (r.passing repo s allowed size q) := by
  let pages := (List.range n).map fun i => r.passing repo s allowed size (i + 1)
  have joined : pages.flatten = (r.listed repo s allowed).filter (r.passes s) :=
    flatMap_passing r repo s allowed enough
  have kinds : OfOneKind (pages.flatten.map (·.sortValue field)) := by
    rw [joined]
    exact kind.subset (List.map_subset _ List.filter_sublist.subset)
  have sorted :
    (List.range n).flatMap
      (fun i => sortByField r.sorter field s.sortOrder (r.passing repo s allowed size (i + 1))) =
      (pages.map (sortByField r.sorter field s.sortOrder)).flatten := by
    rw [List.map_map]
    rfl
  rw [sorted, ← joined, sortByField_flatten_iff kinds, List.pairwise_map]
  constructor
  · intro ordered p q first less
    by_cases last : q ≤ n
    · have places := List.pairwise_iff_getElem.mp ordered (p - 1) (q - 1) (by simp; omega)
        (by simp; omega) (by omega)
      simpa [Nat.sub_add_cancel first, Nat.sub_add_cancel (Nat.le_trans first (Nat.le_of_lt less))]
        using places
    · have past : (r.listed repo s allowed).length ≤ (q - 1) * size :=
        Nat.le_trans enough (Nat.mul_le_mul_right size (by omega))
      intro a _ b none
      rw [passing, pageOf_eq_nil past] at none
      exact absurd none (List.not_mem_nil)
  · intro ordered
    exact List.pairwise_lt_range.imp fun {i j} less =>
      ordered (i + 1) (j + 1) (Nat.le_add_left 1 i) (Nat.add_lt_add_right less 1)

theorem fetchedItems_of_limit (static : s.paging? = none) {n : Nat} (limited : s.limit = some n)
    (positive : 0 < n) (layerId : String) :
    r.fetchedItems repo layerId s allowed =
      ((r.listed repo s allowed).drop (s.offset.getD 0)).take n := by
  obtain ⟨m, rfl⟩ := Nat.exists_eq_add_of_lt positive
  simp only [fetchedItems, CollectionSource.fetchWindow, static, limited, FetchWindow.cut, listed]

theorem sorted_window_eq_take_iff {sorter : Sorter} {items : List Item} {passes : Item → Bool}
    {order : SortOrder} {n : Nat} (kind : OfOneKind (items.map (·.sortValue field))) :
    sortByField sorter field order ((items.take n).filter passes) =
        (sortByField sorter field order (items.filter passes)).take n ↔
      ((items.drop n).filter passes = [] ∨ ∀ item ∈ items.take n, passes item = true) ∧
        order.Precede field ((items.take n).filter passes) ((items.drop n).filter passes) := by
  have parts :
      items.filter passes = (items.take n).filter passes ++ (items.drop n).filter passes := by
    rw [← List.filter_append, List.take_append_drop]
  have short : ((items.take n).filter passes).length ≤ n :=
    (List.length_filter_le _ _).trans (List.length_take_le n items)
  have kinds :
      OfOneKind
        (((items.take n).filter passes ++ (items.drop n).filter passes).map
          (·.sortValue field)) := by
    rw [← parts]
    exact kind.subset (List.map_subset _ List.filter_sublist.subset)
  rw [parts, sortByField_eq_take_iff kinds short]
  refine and_congr_left fun _ => or_congr_right' fun more => ?_
  -- If something was cut off, the window is full, so that what passes fills it only if all of it
  -- passes.
  have full : (items.take n).length = n := by
    rw [List.length_take, Nat.min_eq_left]
    by_contra few
    rw [List.drop_eq_nil_of_le (by omega)] at more
    exact more rfl
  calc ((items.take n).filter passes).length = n
    _ ↔ ((items.take n).filter passes).length = (items.take n).length := by rw [full]
    _ ↔ ∀ item ∈ items.take n, passes item = true := List.length_filter_eq_length_iff

/-- A binding that sorts by a field, on values of one kind. Each of its pages shows the items at its
    places in the manual order that pass the filters, sorted among themselves, and the clones of all
    pages joined are in the order of the field exactly if no item on a later page comes before one
    on an earlier page. A limit is treated in the same way: it shows what passes among the first
    items in their manual order, and these are the first items in the order of the field only under
    a condition. -/
theorem sorted_windows_agree_iff (lists : r.Lists repo l s scope allowed) (keyed : repo.Keyed)
    (sorts : SortMode.ofText s.sortBy = .field field)
    (kind : OfOneKind ((r.listed repo s allowed).map (·.sortValue field))) :
    (∀ (size : Nat) (request : Nat → Pagination.Request), s.perPage? r.settings = some size →
      0 < size →
      (∀ p, 1 ≤ p → (request p).pageFor l.id = p) →
      (∀ p, 1 ≤ p → (r.visit (request p) r.shuffle).Builds repo l s allowed) →
      ∃ clones, r.ShowsPages repo l s scope allowed size (fun p => r.visit (request p) r.shuffle)
          (fun p => sortByField r.sorter field s.sortOrder
            ((pageOf size p (r.listed repo s allowed)).filter (r.passes s))) clones ∧
        ∀ n, (r.listed repo s allowed).length ≤ n * size →
          (FetchWindow.ofPage size n).Told (r.listed repo s allowed).length →
          (((List.range n).flatMap fun i => (clones (i + 1)).map (·.itemId)) =
              (sortByField r.sorter field s.sortOrder
                ((r.listed repo s allowed).filter (r.passes s))).map (fun item => some item.id) ↔
            ∀ p q, 1 ≤ p → p < q →
              s.sortOrder.Precede field
                ((pageOf size p (r.listed repo s allowed)).filter (r.passes s))
              ((pageOf size q (r.listed repo s allowed)).filter (r.passes s)))) ∧
    (∀ n rest, s.paging? = none → s.limit = some n → 0 < n →
      rest = (r.listed repo s allowed).drop (s.offset.getD 0) →
      r.Builds repo l s allowed →
      (s.fetchWindow r.settings r.request l.id).Told (r.listed repo s allowed).length →
      ∃ clones, (r.resolveLayer l (scope.map Given.ofValues)).result =
        .ok ⟨fragmentElement l.toElement none, clones⟩ ∧
        r.ShowsItems l (repo.fields s.id r.variant)
          (sortByField r.sorter field s.sortOrder ((rest.take n).filter (r.passes s))) clones ∧
        (clones.map (·.itemId) =
            ((sortByField r.sorter field s.sortOrder (rest.filter (r.passes s))).take n).map
              (fun item => some item.id) ↔
          ((rest.drop n).filter (r.passes s) = [] ∨ ∀ item ∈ rest.take n, r.passes s item = true) ∧
            s.sortOrder.Precede field ((rest.take n).filter (r.passes s))
              ((rest.drop n).filter (r.passes s)))) := by
  constructor
  · intro size request paged positive asks builds
    obtain ⟨clones, shown⟩ :=
      lists.exists_pages paged positive request (fun _ => r.shuffle) asks builds
    rw [sorts] at shown
    refine ⟨clones, shown, fun n enough told => ?_⟩
    have stamps : ((List.range n).flatMap fun i => (clones (i + 1)).map (·.itemId)) =
        ((List.range n).flatMap fun i =>
          sortByField r.sorter field s.sortOrder (r.passing repo s allowed size (i + 1))).map
          fun item => some item.id := by
      rw [List.map_flatMap]
      refine List.flatMap_congr fun i member => ?_
      exact (shown (i + 1) (Nat.le_add_left 1 i) (told.mono (List.mem_range.mp member))).2.ids
    rw [stamps, stamps_eq_iff keyed ?_ (sortByField_subset List.filter_sublist.subset)]
    · exact flatMap_sorted_passing_iff kind enough
    · intro item member
      obtain ⟨i, _, onPage⟩ := List.mem_flatMap.mp member
      exact sortByField_subset (passing_sublist r repo s allowed size (i + 1)).subset onPage
  · rintro n rest static limited positive rfl builds told
    obtain ⟨clones, resolved, shown⟩ := lists.resolves_static static builds told
    unfold shownItems at shown
    rw [sorts, fetchedItems_of_limit static limited positive] at shown
    have part : (r.listed repo s allowed).drop (s.offset.getD 0) ⊆ r.listed repo s allowed :=
      List.drop_subset _ _
    refine ⟨clones, resolved, shown, ?_⟩
    rw [shown.ids, stamps_eq_iff keyed]
    · exact sorted_window_eq_take_iff (kind.subset (List.map_subset _ part))
    · exact sortByField_subset fun item member =>
        part (List.take_subset _ _ (List.filter_sublist.subset member))
    · exact List.Subset.trans (List.take_subset _ _)
        (sortByField_subset (List.Subset.trans List.filter_sublist.subset part))

end Resolver

def firstSongs (n : Nat) (order : SortOrder) : CollectionSource :=
  { id := "songs", sortBy := some "rank", sortOrder := order, limit := some n }

theorem song_ranks_are_numbers :
    OfOneKind ([song "s1" "2", song "s2" "1"].map (·.sortValue "rank")) :=
  .inr (by decide +kernel)

theorem songs_by_rank :
    sortByField .byRuns "rank" .ascending [song "s1" "2", song "s2" "1"] =
      [song "s2" "1", song "s1" "2"] := by
  decide +kernel

theorem first_song_by_rank_is_not_shown_first :
    ((Resolver.visit { source := charts.source } { defaultPage := some 1 } id).resolveLayer
      (songLayer (songPages (some "rank") none)) none).result.map Layer.shownIds = .ok [some "s1"] ∧
    ((Resolver.visit { source := charts.source } { defaultPage := some 2 } id).resolveLayer
      (songLayer (songPages (some "rank") none)) none).result.map Layer.shownIds = .ok [some "s2"] ∧
    ((Resolver.visit { source := charts.source } {} id).resolveLayer
      (songLayer (firstSongs 1 .ascending)) none).result.map Layer.shownIds = .ok [some "s1"] ∧
    (sortByField .byRuns "rank" .ascending
      (Resolver.listed { source := charts.source } charts (songPages (some "rank") none) none)).map
      (·.id) = ["s2", "s1"] := by
  have page := fun p => charts_shownIds (s := songPages (some "rank") none) rfl rfl
    { defaultPage := some p }
    (by simp [songPages])
  have first := charts_shownIds (s := firstSongs 1 .ascending) rfl rfl {} (by simp [firstSongs])
    (by decide +kernel)
  refine ⟨(page 1 (by decide +kernel)).trans (by decide +kernel),
    (page 2 (by decide +kernel)).trans (by decide +kernel),
    first.trans (by decide +kernel), ?_⟩
  rw [charts_listed rfl, songs_by_rank]
  rfl

theorem songs_by_falling_rank_agree :
    (∃ clones : Nat → List Layer,
      (∀ p, 1 ≤ p → (FetchWindow.ofPage 1 p).Told 2 →
        ∃ d, ((Resolver.visit { source := charts.source } { defaultPage := some p } id).resolveLayer
        (songLayer { songPages (some "rank") none with sortOrder := .descending }) none).result =
          .ok d ∧
          d.children = clones p) ∧
      ((List.range 2).flatMap fun i => (clones (i + 1)).map (·.itemId)) = [some "s1", some "s2"]) ∧
    ∃ d,
      (Resolver.resolveLayer { source := charts.source } (songLayer (firstSongs 1 .descending))
        none).result =
      .ok d ∧ d.shownIds = [some "s1"] := by
  have keyed : charts.Keyed := Repository.keyed_add Repository.keyed_empty _ _ _ _
  have falling : sortByField .byRuns "rank" .descending [song "s1" "2", song "s2" "1"] =
    [song "s1" "2", song "s2" "1"] :=
    by decide +kernel
  constructor
  · let s : CollectionSource := { songPages (some "rank") none with sortOrder := .descending }
    have listed : Resolver.listed { source := charts.source } charts s none = _ := charts_listed rfl
    obtain ⟨clones, shown, joined⟩ :=
      (Resolver.sorted_windows_agree_iff (charts_lists (s := s) rfl rfl) keyed rfl
      (listed ▸ song_ranks_are_numbers)).1 1 (fun p => { defaultPage := some p }) rfl Nat.one_pos
        (fun _ _ => rfl)
      (fun p _ => charts_builds rfl _ (fun _ => .refl _) (by simp [s, songPages]))
    unfold Resolver.ShowsPages at shown
    rw [listed] at shown joined
    refine ⟨clones, fun p first told => ⟨_, (shown p first told).1, rfl⟩, ?_⟩
    rw [(joined 2 (by decide) (by decide +kernel)).mpr ?_]
    · exact congrArg (List.map _) falling
    · intro p q first less a inP b inQ
      have ends : p = 1 ∧ q = 2 := by
        by_contra other
        rw [pageOf_eq_nil (show _ ≤ (q - 1) * 1 by simp; omega)] at inQ
        exact absurd inQ (List.not_mem_nil)
      obtain ⟨rfl, rfl⟩ := ends
      rw [List.mem_singleton.mp (show a ∈ [song "s1" "2"] from inP),
        List.mem_singleton.mp (show b ∈ [song "s2" "1"] from inQ)]
      decide +kernel
  · let s : CollectionSource := firstSongs 1 .descending
    have listed : Resolver.listed { source := charts.source } charts s none = _ := charts_listed rfl
    obtain ⟨clones, resolved, _, agree⟩ :=
      (Resolver.sorted_windows_agree_iff (charts_lists (s := s) rfl rfl) keyed rfl
      (listed ▸ song_ranks_are_numbers)).2 1 _ rfl rfl Nat.one_pos rfl
      (charts_builds rfl {} (fun items => .refl (id items)) (by simp [s, firstSongs]))
      (by rw [listed]; decide +kernel)
    refine ⟨_, resolved, (agree.mpr ?_).trans ?_⟩
    · rw [listed]
      exact ⟨.inr (by decide), by
        intro a inFirst b inRest
        rw [List.mem_singleton.mp inFirst, List.mem_singleton.mp inRest]
        decide +kernel⟩
    · rw [listed]
      exact congrArg (fun items => (items.take 1).map fun item : Item => some item.id) falling

end PageLayers
