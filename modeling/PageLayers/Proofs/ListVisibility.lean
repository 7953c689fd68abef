import PageLayers.Proofs.FragmentWalk
import PageLayers.Proofs.Multiplicity
import PageLayers.Proofs.Room
import PageLayers.Proofs.StoredItems
import PageLayers.Proofs.Survivors

/-!
Bound layers with an expression on fields. The fragment in the place of the layer keeps the
expression, and so does each clone in it. It is evaluated twice on the way to a clone: for the
fragment, where the item is not in scope, and on the item's own values. A clone is left exactly if
it holds both times.
-/

namespace PageLayers
open Layer Lineage

theorem Layer.lineages_subset {around : Lineage} {l : Layer} {ls : List Layer} (member : l ∈ ls) :
    lineages around l ⊆ forestLineages around ls := by
  obtain ⟨before, after, rfl⟩ := List.append_of_mem member
  rw [forestLineages_append, forestLineages]
  exact fun p below => List.mem_append_right _ (List.mem_append_left _ below)

theorem Element.eval_of_isSeen {e : Element} {x : Visibility.Expression}
    (expression : e.bindings.visibility = some x) {ctx : Visibility.Context} {passed : Bool}
    (asked : e.isSeen Visibility.Expression.eval ctx = .ok passed) : x.eval ctx = .ok passed := by
  simp only [isSeen, expression] at asked
  split at asked
  · rename_i empty
    have none : x.groups = [] := by simpa [Visibility.Expression.isEmpty] using empty
    rw [Visibility.Expression.eval, none]
    exact asked
  · exact asked

theorem Page.survives_iff_eval {p : Page} {r : Resolver}
    (standard : r.evaluator = Visibility.Expression.eval)
    {root : Option Values} {resolved : List Layer} {page : ResolvedPage}
    (finished : p.finish r root resolved = .ok page)
    {e : Element} {outer : Lineage} (member : e :: outer ∈ forestLineages [] resolved)
    {x : Visibility.Expression}
    (expression : e.bindings.visibility = some x) (fields : x.TestsFields) :
    survives r.evaluator root page.counts (e :: outer) = true ↔
      survives r.evaluator root page.counts outer = true ∧
      x.eval { itemValues := values root (e :: outer) } = .ok true := by
  rw [survives_cons, Bool.and_eq_true, and_comm]
  -- The node is asked only if those around it are left.
  refine and_congr_right fun reached => ?_
  obtain ⟨passed, asked⟩ := p.finish_asks finished member reached
  rw [stays, asked]
  rw [standard] at asked
  have narrow : (context root page.counts (e :: outer)).room ≤ Json.depthLimit :=
    (Nat.sub_le _ _).trans (Nat.sub_le _ _)
  rw [Visibility.Expression.eval_of_ok fields narrow (Element.eval_of_isSeen expression asked),
    Except.ok.injEq]

theorem Page.survives_pair_iff_eval {p : Page} {r : Resolver}
    (standard : r.evaluator = Visibility.Expression.eval)
    {resolved : List Layer} {page : ResolvedPage} (finished : p.finish r none resolved = .ok page)
    {f c : Layer} (member : f ∈ resolved) (within : c ∈ f.children) {x : Visibility.Expression}
    (outer : f.bindings.visibility = some x)
    (inner : c.bindings.visibility = some x) (fields : x.TestsFields) {stamped : Values}
    (itemValues : c.itemValues = some stamped) :
    survives r.evaluator none page.counts [c.toElement, f.toElement] = true ↔
      x.eval { itemValues := f.itemValues } = .ok true ∧
      x.eval { itemValues := some stamped } = .ok true := by
  obtain ⟨f, children⟩ := f
  obtain ⟨c, below⟩ := c
  have atF : [f] ∈ forestLineages [] resolved := lineages_subset member List.mem_cons_self
  have atC : [c, f] ∈ forestLineages [] resolved := by
    refine lineages_subset member (List.mem_cons_of_mem _ ?_)
    exact lineages_subset within List.mem_cons_self
  have scopeF : values none [f] = f.itemValues := by simp [values]
  have scopeC : values none [c, f] = some stamped := by
    rw [values_cons, Element.scope, show c.itemValues = some stamped from itemValues]
    rfl
  rw [p.survives_iff_eval standard finished atC inner fields,
    p.survives_iff_eval standard finished atF outer fields, scopeF, scopeC, and_assoc]
  exact and_iff_right rfl

namespace Resolver

/-- The clones in a fragment, one for each item that was selected, in this order. Those are left for
    which the expression of the layer holds where the layer lies and on the values of their item. -/
def LeavesClones (r : Resolver) (l : Layer) (x : Visibility.Expression) (left : Lineage → Bool)
    (selection : Selection) (fragment : Layer) : Prop :=
  List.Forall₂ (fun item clone => clone.id = cloneId l.id item.id ∧ clone.itemId = some item.id ∧
    ∃ values, (r.enhance item.values selection.fields).result = .ok values ∧
      (left [clone.toElement, fragment.toElement] = true ↔
        x.eval { itemValues := l.itemValues } = .ok true ∧
        x.eval { itemValues := some values } = .ok true))
    selection.items fragment.children

variable {r : Resolver}

theorem fragment_of_resolved {l d : Layer} {s : CollectionSource} (plain : l.isFragment = false)
    (binding : l.binding? = some s) {scope : Option Given}
    (resolved : (r.resolveLayer l scope).result = .ok d) :
    ((∃ cause, (r.expandLayer l s scope).result = .error cause) ∧ d.toElement = l.toElement) ∨
      ∃ selection, (r.select l.id s scope).result = .ok selection ∧
        d.toElement =
          fragmentElement l.toElement (selection.window.pageMeta l.id s.id selection.total) ∧
        List.Forall₂ (fun item clone => (r.cloneLayer l selection.fields item).result = .ok clone)
          selection.items d.children := by
  rw [resolveLayer_of_binding plain binding] at resolved
  cases expansion : (r.expandLayer l s scope).result with
  | error cause =>
    simp only [expansion] at resolved
    split at resolved
    · cases resolved
    · obtain ⟨_, _, rfl⟩ := exceptMap_ok_iff.mp resolved
      exact .inl ⟨⟨cause, rfl⟩, rfl⟩
  | ok fragment =>
    rw [expansion, Except.ok.injEq] at resolved
    subst resolved
    obtain ⟨selection, clones, selected, all, -, rfl⟩ := expandBinding_ok_iff.mp expansion
    exact .inr ⟨selection, selected, rfl, List.forall₂_map_left_iff.mp (Outcome.all_ok_iff.mp all)⟩

theorem leavesClones_of_fragment {p : Page} (standard : r.evaluator = Visibility.Expression.eval)
    {resolved : List Layer}
    {page : ResolvedPage} (finished : p.finish r none resolved = .ok page) {l d : Layer}
    (plain : l.isFragment = false) (member : d ∈ resolved) {x : Visibility.Expression}
    (expression : l.bindings.visibility = some x) (fields : x.TestsFields)
    {pagination : Option Pagination.Meta}
    (fragment : d.toElement = fragmentElement l.toElement pagination) {selection : Selection}
    (each : List.Forall₂
      (fun item clone => (r.cloneLayer l selection.fields item).result = .ok clone)
      selection.items d.children) :
    r.LeavesClones l x (survives r.evaluator none page.counts) selection d := by
  have kept : d.bindings.visibility = some x := by rw [fragment]; exact expression
  have scope : d.itemValues = l.itemValues := by rw [fragment]; rfl
  have within := (List.forall₂_and_left d.children selection.items).mpr
    ⟨fun _ listed => listed, each.flip⟩
  refine within.flip.imp fun item clone ⟨listed, cloned⟩ => ?_
  obtain ⟨values, _, enhanced, _, same, _⟩ := exists_of_clone plain cloned
  refine ⟨same.id, congrArg (·.itemId) same, values, enhanced, ?_⟩
  rw [← scope]
  exact p.survives_pair_iff_eval standard finished member listed kept
    (same.visibility.trans expression) fields
    same.itemValues

end Resolver

/-- A bound layer at the top of a page without an item of its own, with an expression on fields.
    Where its binding does not fail there is a clone for each item that is selected. The page is
    left with those for which the expression holds twice: without the item, for the fragment, and on
    the values of the item. -/
theorem clones_left_iff_list_and_item_hold (r : Resolver)
    (standard : r.evaluator = Visibility.Expression.eval) (p : Page)
    (free : p.item = none) {before after : List Layer} {l : Layer}
    (expands : Component.expand p.components p.layers = .ok (before ++ l :: after))
    {s : CollectionSource} (binding : l.binding? = some s) {x : Visibility.Expression}
    (expression : l.bindings.visibility = some x)
    (fields : x.TestsFields) {page : ResolvedPage} (done : (p.resolve r).result = .ok page) :
    ∃ xs d ys, p.ResolvesTo r none (xs ++ d :: ys) ∧ xs.length = before.length ∧
      page.LeftOf (xs ++ d :: ys) (survives r.evaluator none page.counts) ∧
      (((∃ cause, (r.expandLayer l s none).result = .error cause) ∧ d.toElement = l.toElement) ∨
        ∃ selection, (r.select l.id s none).result = .ok selection ∧
          r.LeavesClones l x (survives r.evaluator none page.counts) selection d) := by
  obtain ⟨root, resolved, resolves, finished⟩ := Page.resolve_ok_iff.mp done
  obtain ⟨_, tree, again, read, injected, shown⟩ := resolves
  obtain rfl : root = none := by
    rw [Page.itemValues, free, Outcome.result_pure, Except.ok.injEq] at read
    exact read.symm
  rw [expands, Except.ok.injEq] at again
  rw [injectPageItem, Except.ok.injEq] at injected
  subst again injected
  have around := shown
  rw [Option.map_none, Resolver.resolveForest_around] at around
  simp only [exceptBind_ok_iff, exceptPure_ok_iff] at around
  obtain ⟨xs, first, d, here, ys, _, rfl⟩ := around
  refine ⟨xs, d, ys, ⟨_, _, expands, by rw [Page.itemValues, free]; rfl, rfl, shown⟩,
    Resolver.resolveForest_length first,
    (Page.finish_leaves finished).2.2, ?_⟩
  have plain : l.isFragment = false := by
    obtain ⟨e, children⟩ := l
    exact (Resolver.becomes_of_resolved here).1
  rcases Resolver.fragment_of_resolved plain binding here
    with kept | ⟨selection, selected, fragment, each⟩
  · exact .inl kept
  · exact .inr
      ⟨selection, selected, Resolver.leavesClones_of_fragment standard finished plain
        (by simp) expression fields
      fragment each⟩

def note (id title : String) : Item where
  id := id
  collectionId := "notes"
  values := [("title", title)]

def notes : Repository :=
  ({} : Repository).add "notes" [{ id := "title" }] [note "n1" "One", note "n2" "Two"] none

def noteList (x : Visibility.Expression) : Layer where
  id := "notes"
  bindings := { collection := some { id := "notes" }, visibility := some x }

def titleIsNot (title : String) : Visibility.Expression :=
  { groups :=
    [{ conditions := [{ operator := "is_not", fieldId := some "title", value := some title }] }] }

theorem notes_source : notes.source = notes.plainSource := by
  refine Repository.source_eq_plainSource ?_
  intro v
  cases v <;> decide

/-- The first note goes by the title that is asked for. It is not shown, since the whole list is
    hidden. -/
theorem list_is_hidden_with_matching_note :
    (titleIs "One").TestsFields ∧
      (Resolver.select { source := notes.source } "notes"
        { id := "notes" } none).result.toOption.map (·.items) =
        some [note "n1" "One", note "n2" "Two"] ∧
      (Resolver.enhance { source := notes.source } (note "n1" "One").values
        [{ id := "title" }]).result =
        .ok [("title", "One")] ∧
      (titleIs "One").eval { itemValues := some [("title", "One")] } = .ok true ∧
      (Page.resolve { layers := [noteList (titleIs "One")] } { source := notes.source }).result =
        .ok { counts := [("notes", 2)] } := by
  rw [notes_source]
  decide +kernel

theorem select_notes {selection : Resolver.Selection}
    (selected :
      (Resolver.select { source := notes.plainSource } "notes" { id := "notes" } none).result =
        .ok selection) :
    selection.items = [note "n1" "One", note "n2" "Two"] ∧
    selection.fields = [{ id := "title" }] := by
  have chosen :
    (Resolver.select { source := notes.plainSource } "notes"
      { id := "notes" } none).result.toOption.map
      (fun selection => (selection.items, selection.fields)) =
        some ([note "n1" "One", note "n2" "Two"], [{ id := "title" }]) := by
    decide +kernel
  rw [selected] at chosen
  simpa [Except.toOption] using chosen

theorem enhance_note {id title : String} {values : Values}
    (enhanced :
      (Resolver.enhance { source := notes.plainSource } (note id title).values
        [{ id := "title" }]).result =
      .ok values) : values = [("title", title)] :=
  (Except.ok.inj enhanced).symm

theorem matching_note_is_shown_alone :
    ∃ page d rest left,
      (Page.resolve { layers := [noteList (titleIsNot "Two")] } { source := notes.source }).result =
        .ok page ∧
      page.LeftOf (d :: rest) left ∧
      d.children.map (fun clone => (clone.itemId, left [clone.toElement, d.toElement])) =
        [(some "n1", true), (some "n2", false)] := by
  rw [notes_source]
  obtain ⟨page, done⟩ : ∃ page, (Page.resolve { layers := [noteList (titleIsNot "Two")] }
      { source := notes.plainSource }).result = .ok page := by
    rw [← isOk_iff]
    decide +kernel
  have expands : Component.expand [] [noteList (titleIsNot "Two")] =
    .ok ([] ++ noteList (titleIsNot "Two") :: []) := rfl
  obtain ⟨xs, d, ys, _, front, left, ⟨⟨cause, failed⟩, _⟩ | ⟨selection, selected, clones⟩⟩ :=
    clones_left_iff_list_and_item_hold { source := notes.plainSource } rfl
      { layers := [noteList (titleIsNot "Two")] } rfl
      expands rfl rfl (by decide) done
  · have works :
      (Resolver.expandLayer { source := notes.plainSource } (noteList (titleIsNot "Two"))
        { id := "notes" }
        none).result.isOk = true := by decide +kernel
    rw [failed] at works
    cases works
  · obtain ⟨items, fields⟩ := select_notes selected
    rw [Resolver.LeavesClones, items, fields] at clones
    obtain ⟨first, _, ⟨_, ofFirst, one, enhancedOne, firstLeft⟩, others, listed⟩ :=
      List.forall₂_cons_left_iff.mp clones
    obtain ⟨second, _, ⟨_, ofSecond, two, enhancedTwo, secondLeft⟩, none, rfl⟩ :=
      List.forall₂_cons_left_iff.mp others
    obtain rfl := List.forall₂_nil_left_iff.mp none
    obtain rfl := enhance_note enhancedOne
    obtain rfl := enhance_note enhancedTwo
    obtain rfl := List.eq_nil_of_length_eq_zero front
    refine ⟨page, d, ys, _, done, left, ?_⟩
    have shown := firstLeft.mpr (by decide)
    have lost := Bool.eq_false_iff.mpr fun again => absurd (secondLeft.mp again).2 (by decide)
    rw [listed, List.map_cons, List.map_cons, List.map_nil, ofFirst, ofSecond, shown, lost]
    rfl

end PageLayers
