import PageLayers.Proofs.FragmentWalk
import PageLayers.Proofs.Fragments
import PageLayers.Proofs.Multiplicity

/-!
Resolving what has been resolved. A tree in which any binding was resolved holds a fragment, and the
second resolution comes upon it. Where the fragment lies within a layer whose binding failed, that
binding is tried again, and it fails again: an injection gets as far in resolved layers as in the
stored ones, and a clone whose children are refused fails all the more.
-/

namespace PageLayers

namespace Layer
variable {filler : Filler}

theorem fill_isOk {e : Element} (plain : e.hasOwnScope = false) (children : List Layer) :
    (fill filler ⟨e, children⟩).isOk =
      ((e.fill filler).isOk && (fillForest filler children).isOk) := by
  rw [fill_plain plain]
  cases e.fill filler <;> cases fillForest filler children <;> rfl

theorem fillForest_cons_isOk (l : Layer) (ls : List Layer) :
    (fillForest filler (l :: ls)).isOk = ((fill filler l).isOk && (fillForest filler ls).isOk) := by
  rw [fillForest]
  cases fill filler l <;> cases fillForest filler ls <;> rfl

theorem inject_isOk (values : Values) (l : Layer) :
    (inject values l).isOk =
      ((fill (SlotValue.inject values) l).isOk && tokensFit tokenRoom l) := by
  unfold inject fillFitting
  cases fill (SlotValue.inject values) l <;> cases tokensFit tokenRoom l <;> rfl

end Layer

namespace Resolver
variable {r : Resolver} {scope : Option Given} {cause : Failure}

section injection
variable {filler : Filler}

mutual
theorem fill_resolved : ∀ (l : Layer) {d : Layer}, (r.resolveLayer l scope).result = .ok d →
    (Layer.fill filler d).isOk = (Layer.fill filler l).isOk
  | ⟨e, children⟩, d => by
    intro resolved
    cases own : e.hasOwnScope with
    | true =>
      have hidden := resolveLayer_own own resolved
      obtain ⟨o, ds⟩ := d
      rw [Layer.fill_own own, Layer.fill_own hidden]
      rfl
    | false =>
      rw [resolveLayer_plain own] at resolved
      obtain ⟨ds, below, rfl⟩ := Outcome.map_ok_iff.mp resolved
      rw [Layer.fill_isOk own, Layer.fill_isOk own, fillForest_resolved children below]

theorem fillForest_resolved : ∀ (ls : List Layer) {ds : List Layer},
    (r.resolveForest ls scope).result = .ok ds →
    (Layer.fillForest filler ds).isOk = (Layer.fillForest filler ls).isOk
  | [], ds => by
    intro resolved
    simp only [resolveForest, Outcome.result_pure, Except.ok.injEq] at resolved
    rw [← resolved]
  | l :: ls, ds => by
    intro resolved
    rw [resolveForest_cons] at resolved
    simp only [exceptBind_ok_iff, exceptPure_ok_iff] at resolved
    obtain ⟨d, first, rest, others, rfl⟩ := resolved
    rw [Layer.fillForest_cons_isOk, Layer.fillForest_cons_isOk, fill_resolved l first,
      fillForest_resolved ls others]
end

theorem inject_resolved {e : Element} (own : e.hasOwnScope = false) (values : Values)
    {children ds : List Layer} (resolved : (r.resolveForest children scope).result = .ok ds) :
    (Layer.inject values ⟨e, ds⟩).isOk = (Layer.inject values ⟨e, children⟩).isOk := by
  rw [Layer.inject_isOk, Layer.inject_isOk, Layer.fill_isOk own, Layer.fill_isOk own,
    fillForest_resolved children resolved]
  simp only [Layer.tokensFit, forestTokensFit_resolved children _ resolved]

end injection

/-- A clone that fails for anything but a violation fails as well when its children are resolved a
    second time. -/
theorem cloneLayer_fails_again {l : Layer} {ds : List Layer} (plain : l.isFragment = false)
    (resolved : (r.resolveForest l.children scope).result = .ok ds) {fields : List Field}
    {item : Item}
    (failed : (r.cloneLayer l fields item).result = .error cause) (calm : cause.isViolation = false)
    (clone : Layer) : (r.cloneLayer ⟨l.toElement, ds⟩ fields item).result ≠ .ok clone := by
  intro made
  simp only [cloneLayer, Resolver.clone, Outcome.bind_ok_iff] at made
  obtain ⟨again, twice, values, enhanced, injected⟩ := made
  rcases Outcome.bind_error_iff.mp failed with children | ⟨once, first, rest⟩
  · simp [resolveForest_violates _ children] at calm
  · rcases Outcome.bind_error_iff.mp rest with unenhanced | ⟨others, also, injection⟩
    · simp [enhanced] at unenhanced
    · obtain rfl : values = others := by simpa [enhanced] using also
      let element :=
        cloneElement l.toElement item (item.slug? fields r.settings.slugFieldKey) values
      have own : element.hasOwnScope = false := cloneElement_hasOwnScope plain item _ values
      have same :
        (Layer.inject values ⟨element, again⟩).isOk = (Layer.inject values ⟨element, once⟩).isOk :=
        calc (Layer.inject values ⟨element, again⟩).isOk
          _ = (Layer.inject values ⟨element, ds⟩).isOk := inject_resolved own values twice
          _ = (Layer.inject values ⟨element, l.children⟩).isOk :=
            inject_resolved own values resolved
          _ = (Layer.inject values ⟨element, once⟩).isOk := (inject_resolved own values first).symm
      have filled : (Layer.inject values ⟨element, again⟩).isOk = true :=
        isOk_iff.mpr ⟨clone, injected⟩
      have unfilled : (Layer.inject values ⟨element, once⟩).isOk = false := by
        rw [show Layer.inject values ⟨element, once⟩ = .error cause from injection]
        rfl
      simp [same, unfilled] at filled

theorem expandLayer_fails_again {l : Layer} {s : CollectionSource} {ds : List Layer}
    (plain : l.isFragment = false) (resolved : (r.resolveForest l.children scope).result = .ok ds)
    (failed : (r.expandLayer l s scope).result = .error cause) (calm : cause.isViolation = false) :
    ∃ failure, (r.expandLayer ⟨l.toElement, ds⟩ s scope).result = .error failure := by
  cases again : (r.expandLayer ⟨l.toElement, ds⟩ s scope).result with
  | error failure => exact ⟨failure, rfl⟩
  | ok fragment =>
    obtain ⟨selection, made, selected, cloned, counted, -⟩ := expandBinding_ok_iff.mp again
    rcases expandBinding_error_iff.mp failed with unselected | ⟨other, also, rest⟩
    · exact absurd (selected.symm.trans unselected) (by simp)
    · obtain rfl : selection = other := Except.ok.inj (selected.symm.trans also)
      rcases rest with clones | ⟨-, uncounted, -⟩
      · obtain ⟨_, listed, fails⟩ := Outcome.all_error clones
        obtain ⟨item, shown, rfl⟩ := List.mem_map.mp listed
        have each := List.forall₂_map_left_iff.mp (Outcome.all_ok_iff.mp cloned)
        obtain ⟨clone, _, done⟩ := forall₂_mem_right (List.Forall₂.flip each) shown
        exact absurd done (cloneLayer_fails_again plain resolved fails calm clone)
      · exact absurd (counted.symm.trans uncounted) (by simp)

mutual
theorem resolveLayer_again : ∀ (l : Layer) {scope : Option Given} {d : Layer},
    (r.resolveLayer l scope).result = .ok d →
    d = l ∨ ∃ failure, (r.resolveLayer d scope).result = .error failure
  | ⟨e, children⟩, scope, d => by
    intro resolved
    cases plain : e.isFragment with
    | true => simp [resolveLayer, resolveElement, plain] at resolved
    | false =>
      cases binding : e.binding? with
      | none =>
        have unscoped : e.hasOwnScope = false := by
          simp [Element.hasOwnScope, Element.isBound, plain, binding]
        rw [resolveLayer_plain unscoped] at resolved
        obtain ⟨ds, below, rfl⟩ := Outcome.map_ok_iff.mp resolved
        rcases resolveForest_again children below with rfl | ⟨failure, fails⟩
        · exact .inl rfl
        · refine .inr ⟨failure, ?_⟩
          rw [resolveLayer_plain unscoped]
          exact Outcome.map_error_iff.mpr fails
      | some s =>
        rw [resolveLayer_of_binding plain binding] at resolved
        cases expansion : (r.expandLayer ⟨e, children⟩ s scope).result with
        | ok fragment =>
          -- What stands in the place of the layer is refused at once.
          rw [expansion, Except.ok.injEq] at resolved
          subst resolved
          obtain ⟨selection, clones, -, -, -, rfl⟩ := expandBinding_ok_iff.mp expansion
          refine .inr ⟨.fragmentInTree (fragmentId e.id), ?_⟩
          simp [resolveLayer, resolveElement, Element.isFragment, fragmentElement]
        | error cause =>
          rw [expansion] at resolved
          cases violation : cause.isViolation with
          | true => simp [violation] at resolved
          | false =>
            simp only [violation, Bool.false_eq_true, ↓reduceIte] at resolved
            obtain ⟨ds, below, rfl⟩ := exceptMap_ok_iff.mp resolved
            rcases resolveForest_again children below with rfl | ⟨failure, fails⟩
            · exact .inl rfl
            · obtain ⟨other, failsAgain⟩ := expandLayer_fails_again plain below expansion violation
              refine .inr ?_
              rw [resolveLayer_of_binding plain binding, failsAgain]
              cases otherViolation : other.isViolation with
              | true => exact ⟨other, by simp [otherViolation]⟩
              | false => exact ⟨failure, by simp [otherViolation, fails, Functor.map, Except.map]⟩

theorem resolveForest_again : ∀ (ls : List Layer) {scope : Option Given} {ds : List Layer},
    (r.resolveForest ls scope).result = .ok ds → ds = ls ∨
    ∃ failure, (r.resolveForest ds scope).result = .error failure
  | [], scope, ds => by
    intro resolved
    simp only [resolveForest, Outcome.result_pure, Except.ok.injEq] at resolved
    exact .inl resolved.symm
  | l :: ls, scope, ds => by
    intro resolved
    rw [resolveForest_cons] at resolved
    simp only [exceptBind_ok_iff, exceptPure_ok_iff] at resolved
    obtain ⟨d, first, rest, others, rfl⟩ := resolved
    rcases resolveLayer_again l first with rfl | ⟨failure, fails⟩
    · rcases resolveForest_again ls others with rfl | ⟨failure, fails⟩
      · exact .inl rfl
      · refine .inr ⟨failure, ?_⟩
        rw [resolveForest_cons, first, fails]
        rfl
    · exact .inr (resolveForest_fails_of_mem List.mem_cons_self fails)
end

/-- No tree is resolved twice: what a resolution returns is what it was given, or it is refused. A
    resolution fails only with a violation, and over a calm source only for a fragment that it comes
    upon. Where it comes upon one it fails, as long as no clone that fails otherwise is heard of
    first. -/
theorem resolution_refuses_fragments (r : Resolver) (layers : List Layer) (scope : Option Given) :
    (∀ shown, (r.resolveForest layers scope).result = .ok shown →
      shown = layers ∨ ∃ cause, (r.resolveForest shown scope).result = .error cause ∧
      cause.isViolation = true) ∧
    (r.source.Calm → r.evaluator = Visibility.Expression.eval → ∀ cause,
      (r.resolveForest layers scope).result = .error cause → cause.isViolation = true ∧
        ∃ l ∈ layers, ∃ n around, r.Meets l scope n around ∧ n.isFragment = true ∧
          cause = .fragmentInTree n.id) ∧
    ((∀ l ∈ layers, ∀ n around, r.Meets l scope n around → r.FailsAlike n around) →
      ∀ l ∈ layers, ∀ n around, r.Meets l scope n around → n.isFragment = true →
        ∃ cause, (r.resolveForest layers scope).result = .error cause ∧
          cause.isViolation = true) := by
  refine ⟨?_, ?_, ?_⟩
  · intro shown resolved
    rcases resolveForest_again layers resolved with same | ⟨cause, refused⟩
    · exact .inl same
    · exact .inr ⟨cause, refused, resolveForest_violates shown refused⟩
  · intro calm standard cause failed
    exact ⟨resolveForest_violates layers failed, resolveForest_meets calm standard layers failed⟩
  · intro alike l member n around meets fragment
    obtain ⟨_, refused⟩ := meets.resolveLayer_fails fragment (alike l member)
    obtain ⟨cause, failed⟩ := resolveForest_fails_of_mem member refused
    exact ⟨cause, failed, resolveForest_violates layers failed⟩

theorem exists_selection (r : Resolver) (layerId : String) (s : CollectionSource)
    (scope : Option Given) (items : List Item)
    (shows : (r.select layerId s scope).result.toOption.map (·.items) = some items) :
    ∃ selection, (r.select layerId s scope).result = .ok selection ∧ selection.items = items :=
  toOption_map_eq_some_iff.mp shows

end Resolver

def leftover : Layer := { id := "old", name := "_fragment" }

def resolvedTracks : Layer where
  id := "tracks"
  bindings := { collection := some { id := "tracks", sourceFieldId := some "tracks" } }
  children := [leftover]

def garbledAlbums : Layer where
  id := "albums"
  bindings := {
    text :=
      some
        (.dynamicText
          "<ycode-inline-variable>\x7b\"type\":\"field\",\"data\":\x7b\"field_id\":5\x7d\x7d</ycode-inline-variable>")
    collection := some { id := "albums" } }
  children := [resolvedTracks]

def albumWith (id tracks : String) :
    Item := { id, collectionId := "albums", values := [("tracks", tracks)] }

def track (id : String) : Item := { id, collectionId := "tracks" }

/-- The clone of the first album, which has no tracks, fails for its text. So the fragment among the
    tracks of the second album is not heard of, and in the scope around the albums there are no
    tracks. -/
theorem fragment_of_second_album_passes :
    (∃ around, Resolver.Meets { source := albums.source } garbledAlbums (some []) leftover around) ∧
      leftover.isFragment = true ∧
      (Resolver.resolveForest { source := albums.source } [garbledAlbums]
        (some [])).result.toOption.map
        (fun shown => shown.map (·.id)) = some ["albums"] := by
  rw [albums_source]
  let second := albumWith "a2" "[\"t1\", \"t2\"]"
  obtain ⟨all, selected, listed⟩ :=
    Resolver.exists_selection { source := albums.plainSource } "albums" { id := "albums" }
    (some []) [albumWith "a1" "[]", second] (by decide +kernel)
  obtain ⟨tracks, chosen, known⟩ :=
    Resolver.exists_selection { source := albums.plainSource } "tracks"
    { id := "tracks", sourceFieldId := some "tracks" } (some (.ofValues second.values))
      [track "t1", track "t2"]
    (by decide +kernel)
  have isListed : second ∈ all.items := by
    rw [listed]
    exact List.mem_cons_of_mem _ List.mem_cons_self
  have isKnown : track "t1" ∈ tracks.items := by
    rw [known]
    exact List.mem_cons_self
  have atTracks : Resolver.Meets { source := albums.plainSource } resolvedTracks
    (some (.ofValues second.values)) leftover
      (some (.ofValues (track "t1").values)) :=
    .item (by decide) (by decide) chosen isKnown List.mem_cons_self .here
  have atAlbums : Resolver.Meets { source := albums.plainSource } garbledAlbums (some []) leftover
      (some (.ofValues (track "t1").values)) :=
    .item (by decide) (by decide) selected isListed List.mem_cons_self atTracks
  exact ⟨⟨_, atAlbums⟩, by decide, by decide +kernel⟩

theorem faulty_albums_are_refused_again :
    let r : Resolver := { source := albums.source.withFaults { items := [("albums", .breakdown)] } }
    ∃ shown, (r.resolveForest [albumList] none).result = .ok shown ∧
      ∃ l ∈ shown, ∃ n around, r.Meets l none n around ∧ n.isFragment = true := by
  intro r
  have calm : r.source.Calm := albums.source_calm.withFaults (by decide)
  have changed : (r.resolveForest [albumList] none).result.toOption.any (· ≠ [albumList]) =
      true := by
    simp only [r, albums_source]
    decide +kernel
  cases resolved : (r.resolveForest [albumList] none).result with
  | error cause => simp [resolved, Except.toOption] at changed
  | ok shown =>
    rw [resolved] at changed
    have differs : shown ≠ [albumList] := by simpa [Except.toOption] using changed
    obtain ⟨again, _, _⟩ := Resolver.resolution_refuses_fragments r [albumList] none
    rcases again shown resolved with same | ⟨cause, refused, _⟩
    · exact absurd same differs
    · obtain ⟨_, fails, _⟩ := Resolver.resolution_refuses_fragments r shown none
      obtain ⟨_, l, member, n, around, meets, fragment, _⟩ := fails calm rfl cause refused
      exact ⟨shown, rfl, l, member, n, around, meets, fragment⟩

end PageLayers
