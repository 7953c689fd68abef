import PageLayers.Proofs.Pages

/-!
Bindings with a fixed limit and offset. Without filters and a sort, such a binding shows the items
at the places of its window in their manual order. The only limit that is not kept is zero, which is
taken for none: it shows all that the offset leaves.
-/

namespace PageLayers

/-- A part of a list holds what is there from a place on, up to the limit if there is one. -/
def IsWindow {α : Type} (limit : Option Nat) (start : Nat) (all part : List α) : Prop :=
  ∀ j, part[j]? = if ∀ n ∈ limit, j < n then all[start + j]? else none

section windows
variable {α : Type} {limit : Option Nat} {start n : Nat} {all part other : List α}

theorem isWindow_drop (start : Nat) (all : List α) : IsWindow none start all (all.drop start) := by
  intro j
  simp

theorem isWindow_take_drop (n start : Nat) (all : List α) :
    IsWindow (some n) start all ((all.drop start).take n) := by
  intro j
  rw [List.getElem?_take, List.getElem?_drop]
  simp

theorem IsWindow.eq (window : IsWindow limit start all part)
    (also : IsWindow limit start all other) : part = other :=
  List.ext_getElem? fun j => (window j).trans (also j).symm

theorem IsWindow.length_le (window : IsWindow (some n) start all part) : part.length ≤ n := by
  rw [window.eq (isWindow_take_drop n start all), List.length_take]
  exact Nat.min_le_left _ _

theorem isWindow_zero_iff : IsWindow (some 0) start all part ↔ part = [] := by
  constructor
  · exact fun window => List.eq_nil_of_length_eq_zero (Nat.le_zero.mp window.length_le)
  · rintro rfl
    exact isWindow_take_drop 0 start all

/-- If a limit of zero is taken for none, the limit is kept exactly if it is not zero or nothing is
    left after the start. -/
theorem isWindow_iff_of_zero_is_none (window : IsWindow (limit.filter (· ≠ 0)) start all part) :
    IsWindow limit start all part ↔ limit ≠ some 0 ∨ all.length ≤ start := by
  match limit with
  | none => exact iff_of_true window (.inl nofun)
  | some 0 =>
    rw [isWindow_zero_iff, window.eq (isWindow_drop start all), List.drop_eq_nil_iff]
    simp
  | some (n + 1) => exact iff_of_true window (.inl nofun)

theorem length_le_iff_of_zero_is_none (window : IsWindow ((some n).filter (· ≠ 0)) start all part) :
    part.length ≤ n ↔ n ≠ 0 ∨ all.length ≤ start := by
  match n with
  | 0 =>
    rw [Nat.le_zero, List.length_eq_zero_iff, window.eq (isWindow_drop start all),
      List.drop_eq_nil_iff]
    simp
  | n + 1 => exact iff_of_true (IsWindow.length_le window) (.inl nofun)

theorem FetchWindow.isWindow_cut (w : FetchWindow) (items : List Item) :
    IsWindow (w.limit.filter (· ≠ 0)) (w.offset.getD 0) items (w.cut items) := by
  obtain ⟨limit, offset⟩ := w
  match limit with
  | none => exact isWindow_drop _ items
  | some 0 => exact isWindow_drop _ items
  | some (n + 1) => exact isWindow_take_drop (n + 1) _ items

end windows

namespace Resolver

variable {r : Resolver} {repo : Repository} {l : Layer} {s : CollectionSource}
    {scope : Option Values} {allowed : Option (List String)}

theorem shownItems_of_static (static : s.paging? = none)
    (unfiltered : ∀ x ∈ s.filters, x.isEmpty = true)
    (unsorted : SortMode.ofText s.sortBy = .asFetched) (layerId : String) :
    r.shownItems repo layerId s allowed =
      ({ limit := s.limit, offset := s.offset } : FetchWindow).cut (r.listed repo s allowed) := by
  have passes : r.passes s = fun _ => true := by
    unfold Resolver.passes
    cases given : s.filters with
    | none => rfl
    | some x => simp [unfiltered x given]
  have fetched : r.fetchedItems repo layerId s allowed =
      ({ limit := s.limit, offset := s.offset } : FetchWindow).cut (r.listed repo s allowed) := by
    simp only [fetchedItems, CollectionSource.fetchWindow, static, listed]
  rw [shownItems, unsorted, passes, List.filter_true, fetched]
  rfl

/-- A binding without pages, filters and a sort. Its clones are those of the items in the window of
    its offset and its limit, in their manual order, where a limit of zero counts as none. So they
    are within the limit, and show what it asks for, exactly if the limit is not zero or the offset
    leaves nothing. -/
theorem static_window_is_shown_unless_limit_is_zero (lists : r.Lists repo l s scope allowed)
    (static : s.paging? = none) (unfiltered : ∀ x ∈ s.filters, x.isEmpty = true)
    (unsorted : SortMode.ofText s.sortBy = .asFetched) (builds : r.Builds repo l s allowed)
    (told : (s.fetchWindow r.settings r.request l.id).Told (r.listed repo s allowed).length) :
    ∃ items clones, (r.resolveLayer l (scope.map Given.ofValues)).result =
        .ok ⟨fragmentElement l.toElement none, clones⟩ ∧
      r.ShowsItems l (repo.fields s.id r.variant) items clones ∧
      IsWindow (s.limit.filter (· ≠ 0)) (s.offset.getD 0) (r.listed repo s allowed) items ∧
      (IsWindow s.limit (s.offset.getD 0) (r.listed repo s allowed) items ↔
        s.limit ≠ some 0 ∨ (r.listed repo s allowed).length ≤ s.offset.getD 0) ∧
      ∀ n, s.limit = some n →
        (clones.length ≤ n ↔ n ≠ 0 ∨ (r.listed repo s allowed).length ≤ s.offset.getD 0) := by
  obtain ⟨clones, resolved, shows⟩ := lists.resolves_static static builds told
  rw [shownItems_of_static static unfiltered unsorted] at shows
  have window := FetchWindow.isWindow_cut { limit := s.limit, offset := s.offset }
    (r.listed repo s allowed)
  refine ⟨_, clones, resolved, shows, window, isWindow_iff_of_zero_is_none window,
    fun n given => ?_⟩
  rw [← shows.length_eq]
  rw [given] at window ⊢
  exact length_le_iff_of_zero_is_none window

end Resolver

def songWindow (limit offset : Nat) : CollectionSource :=
  { id := "songs", limit := some limit, offset := some offset }

theorem songWindow_builds (limit offset : Nat) :
    Resolver.Builds { source := charts.source } charts (songLayer (songWindow limit offset))
      (songWindow limit offset) none :=
  charts_builds rfl {} (fun items => .refl (id items)) (by simp [songWindow])

theorem second_song_is_in_window :
    ∃ items clones,
      (Resolver.resolveLayer { source := charts.source } (songLayer (songWindow 1 1)) none).result =
        .ok ⟨Resolver.fragmentElement (songLayer (songWindow 1 1)).toElement none, clones⟩ ∧
      IsWindow (some 1) 1 [song "s1" "2", song "s2" "1"] items ∧ clones.length ≤ 1 := by
  have listed : Resolver.listed { source := charts.source } charts (songWindow 1 1) none = _ :=
    charts_listed rfl
  obtain ⟨items, clones, resolved, _, _, window, within⟩ :=
    Resolver.static_window_is_shown_unless_limit_is_zero
    (charts_lists (s := songWindow 1 1) rfl rfl) rfl (by simp [songWindow]) rfl
      (songWindow_builds 1 1)
    (by rw [listed]; decide +kernel)
  rw [listed] at window
  exact ⟨items, clones, resolved, window.mpr (.inl (by decide)),
    (within 1 rfl).mpr (.inl (by decide))⟩

theorem songs_are_shown_past_limit_of_zero :
    ∃ d,
      (Resolver.resolveLayer { source := charts.source } (songLayer (songWindow 0 0)) none).result =
        .ok d ∧
      d.shownIds = [some "s1", some "s2"] ∧
      ¬ IsWindow (some 0) 0 [some "s1", some "s2"] d.shownIds ∧
      ¬ d.children.length ≤ 0 := by
  have shown :
    (Resolver.resolveLayer { source := charts.source } (songLayer (songWindow 0 0)) none).result.map
      Layer.shownIds = .ok [some "s1", some "s2"] :=
    (charts_shownIds (s := songWindow 0 0) rfl rfl {} (by simp [songWindow])
      (by decide +kernel)).trans
      (by decide +kernel)
  obtain ⟨d, resolved, ids⟩ := exceptMap_ok_iff.mp shown
  refine ⟨d, resolved, ids, ?_, ?_⟩
  · rw [isWindow_zero_iff, ids]
    exact List.cons_ne_nil _ _
  · have two : d.children.length = 2 := by simpa [Layer.shownIds] using congrArg List.length ids
    rw [two]
    decide

end PageLayers
