import PageLayers.Proofs.Outcome
import PageLayers.Resolution.Collections

/-!
What a binding comes to, step by step. The numbers of its window play a part of their own: they are
logged, and the pages are counted by a double.
-/

namespace PageLayers

theorem Number.isWritable_iff {n : Int} : isWritable n = true ↔
    n.natAbs < Nat.pow 10 maxIntegerDigits := by
  unfold isWritable
  exact decide_eq_true_iff

theorem Number.isWritable_of_le {m n : Nat} (less : m ≤ n) (writable : isWritable n = true) :
    isWritable m = true :=
  isWritable_iff.mpr (Nat.lt_of_le_of_lt less (isWritable_iff.mp writable))

/-- A window on a number of items is told: it can be logged, and its pages can be counted. -/
structure FetchWindow.Told (w : FetchWindow) (total : Int) : Prop where
  loggable : w.isLoggable total = true
  countable : w.isCountable total = true

instance (w : FetchWindow) (total : Int) : Decidable (w.Told total) :=
  decidable_of_iff (w.isLoggable total = true ∧ w.isCountable total = true)
    ⟨fun ⟨logged, counted⟩ => ⟨logged, counted⟩, fun told => ⟨told.loggable, told.countable⟩⟩

variable {w : FetchWindow} {total : Int}

theorem FetchWindow.log_ok_iff : w.log total = .ok () ↔ w.isLoggable total = true := by
  unfold FetchWindow.log
  split <;> simp_all

theorem FetchWindow.log_error {cause : Failure} (failed : w.log total = .error cause) :
    cause = .oversizedInteger := by
  unfold FetchWindow.log at failed
  split at failed <;> simp_all

theorem FetchWindow.recordPage_error_iff {layerId collectionId : String} {cause : Failure} :
    w.recordPage layerId collectionId total = .error cause ↔
      w.isCountable total = false ∧ cause = .oversizedNumber := by
  unfold FetchWindow.recordPage
  cases w.isCountable total <;> simp [eq_comm]

theorem FetchWindow.recordPage_ok_iff {layerId collectionId : String}
    {page : Option Pagination.Meta} :
    w.recordPage layerId collectionId total = .ok page ↔
      w.isCountable total = true ∧ w.pageMeta layerId collectionId total = page := by
  unfold FetchWindow.recordPage
  split <;> simp_all

namespace Resolver
variable {r : Resolver} {layerId : String} {e : Element} {s : CollectionSource}
    {scope : Option Given} {selection : Selection}

theorem select_ok_iff : (r.select layerId s scope).result = .ok selection ↔
    ∃ allowed page items, s.allowedIds scope = .ok allowed ∧
      (r.source.items s.id r.variant
        ((s.fetchWindow r.settings r.request layerId).query allowed)).result = .ok page ∧
      (r.source.fields s.id r.variant).result = .ok selection.fields ∧
      applyFilters r.evaluator s.filters page.items = .ok items ∧
      (s.fetchWindow r.settings r.request layerId).isLoggable page.total = true ∧
      selection.window = s.fetchWindow r.settings r.request layerId ∧ selection.total = page.total ∧
      selection.items = r.sorter.sortItems r.shuffle (.ofText s.sortBy) s.sortOrder items := by
  unfold select
  simp only [Outcome.bind_ok_iff, Outcome.result_ofResult, Outcome.result_pure]
  constructor
  · rintro ⟨allowed, restricted, ⟨page, fields⟩, fetched, items, filtered, _, logged, made⟩
    obtain ⟨found, known⟩ := Outcome.both_ok_iff.mp fetched
    cases made
    exact ⟨allowed, page, items, restricted, found, known, filtered,
      FetchWindow.log_ok_iff.mp logged, rfl, rfl, rfl⟩
  · rintro ⟨allowed, page, items, restricted, found, known, filtered, logged, window, total, shown⟩
    refine ⟨allowed, restricted, ⟨page, selection.fields⟩, Outcome.both_ok_iff.mpr ⟨found, known⟩,
      items, filtered, (), FetchWindow.log_ok_iff.mpr logged, ?_⟩
    rw [← window, ← total, ← shown]

theorem select_of_unloggable {allowed : Option (List String)} {page : ItemPage}
    {fields : List Field} {items : List Item} (restricted : s.allowedIds scope = .ok allowed)
    (found : (r.source.items s.id r.variant
      ((s.fetchWindow r.settings r.request layerId).query allowed)).result = .ok page)
    (known : (r.source.fields s.id r.variant).result = .ok fields)
    (filtered : applyFilters r.evaluator s.filters page.items = .ok items)
    (unloggable : (s.fetchWindow r.settings r.request layerId).isLoggable page.total = false) :
    (r.select layerId s scope).result = .error .oversizedInteger := by
  have logging : (s.fetchWindow r.settings r.request layerId).log page.total =
      .error .oversizedInteger := by
    rw [FetchWindow.log, unloggable]
    rfl
  refine Outcome.bind_error_iff.mpr (.inr ⟨allowed, restricted, Outcome.bind_error_iff.mpr (.inr
    ⟨(page, fields), Outcome.both_ok_iff.mpr ⟨found, known⟩, Outcome.bind_error_iff.mpr (.inr
      ⟨items, filtered, Outcome.bind_error_iff.mpr (.inl logging)⟩)⟩)⟩)

theorem expandBinding_ok_iff {inner : Option Given → Outcome (List Layer)} {d : Layer} :
    (r.expandBinding e s inner scope).result = .ok d ↔
      ∃ selection clones, (r.select e.id s scope).result = .ok selection ∧
        (Outcome.all (selection.items.map (r.clone e inner selection.fields))).result = .ok clones ∧
        selection.window.isCountable selection.total = true ∧
        d = ⟨fragmentElement e (selection.window.pageMeta e.id s.id selection.total), clones⟩ := by
  simp only [expandBinding, Outcome.bind_ok_iff, Outcome.result_ofResult,
    FetchWindow.recordPage_ok_iff, Outcome.result_pure, Except.ok.injEq]
  constructor
  · rintro ⟨selection, selected, clones, cloned, _, ⟨counted, rfl⟩, rfl⟩
    exact ⟨selection, clones, selected, cloned, counted, rfl⟩
  · rintro ⟨selection, clones, selected, cloned, counted, rfl⟩
    exact ⟨selection, selected, clones, cloned, _, ⟨counted, rfl⟩, rfl⟩

theorem expandBinding_error_iff {inner : Option Given → Outcome (List Layer)} {cause : Failure} :
    (r.expandBinding e s inner scope).result = .error cause ↔
      (r.select e.id s scope).result = .error cause ∨
      ∃ selection, (r.select e.id s scope).result = .ok selection ∧
        ((Outcome.all (selection.items.map (r.clone e inner selection.fields))).result =
          .error cause ∨
          (∃ clones, (Outcome.all (selection.items.map (r.clone e inner selection.fields))).result =
            .ok clones) ∧
            selection.window.isCountable selection.total = false ∧ cause = .oversizedNumber) := by
  simp only [expandBinding, Outcome.bind_error_iff, Outcome.result_ofResult, Outcome.result_pure,
    reduceCtorEq, and_false, exists_false, or_false, FetchWindow.recordPage_error_iff,
    exists_and_right]

end Resolver
end PageLayers
