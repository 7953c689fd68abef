import PageLayers.Proofs.Entries
import PageLayers.Proofs.StageFailures

/-!
Pagination controls that are patched. A patch overwrites all that an earlier one left, so that
layers that are patched twice show the later state alone. It reaches the layers within outermost
controls and no others, and of these it changes the text that tells the page, and the classes and
two attributes of buttons.
-/

namespace PageLayers
namespace Pagination
open Layer

/-- The state that the mark of an element names by the id of a collection layer. An empty text names
    none. -/
def namedState? (states : Entries Meta) (e : Element) : Option Meta :=
  match e.attributes.lookup targetAttribute with
  | some (.text id) => if id = "" then none else states.lookup id
  | _ => none

def hasPlainMark (e : Element) : Bool :=
  match e.attributes.lookup targetAttribute with
  | some (.array xs) => xs.isEmpty
  | some (.object ms) => ms.isEmpty
  | _ => true

def controlState? (states : Entries Meta) (p : Lineage) : Option Meta :=
  p.reverse.findSome? (namedState? states)

def LeadsNowhere (m : Meta) (id : String) : Prop :=
  endsIn prevSuffix id ∧ m.currentPage ≤ 1 ∨ endsIn nextSuffix id ∧ m.totalPages ≤ m.currentPage

instance (m : Meta) (id : String) : Decidable (LeadsNowhere m id) :=
  inferInstanceAs (Decidable (_ ∨ _))

/-- What becomes of an element within a control. Nothing changes but the text that tells the page
    and, of a button, the classes and the attributes that tell the page and whether the button leads
    anywhere. -/
structure ShowsState (m : Meta) (stored shown : Element) : Prop where
  rest : shown = { stored with
    bindings := { stored.bindings with text := shown.bindings.text }
    attributes := shown.attributes
    classes := shown.classes }
  text : shown.bindings.text = if endsIn infoSuffix stored.id then some (.static m.infoText)
    else stored.bindings.text
  plain : isButton stored.id = false → shown.attributes = stored.attributes ∧
    shown.classes = stored.classes
  others : (shown.attributes.filter fun a => a.1 ≠ disabledAttribute ∧ a.1 ≠ currentPageAttribute) =
    stored.attributes.filter fun a => a.1 ≠ disabledAttribute ∧ a.1 ≠ currentPageAttribute
  page : isButton stored.id = true → shown.attributes.lookup currentPageAttribute =
    some (.text (toString m.currentPage))
  disabled : isButton stored.id = true → shown.attributes.lookup disabledAttribute =
    if LeadsNowhere m stored.id then some (.bool true) else none
  classes : isButton stored.id = true →
    shown.classes = (stored.classes.filter fun c => !disabledClasses.contains c) ++
    if LeadsNowhere m stored.id then disabledClasses else []

/-- What becomes of a node, told by its lineage. Outside of all controls it stays as it is; within
    the outermost control it shows the state that this control names. -/
inductive PatchedNode (states : Entries Meta) : Lineage → Lineage → Prop
  | outside {e : Element} {around around' : Lineage} (deep : around.length = around'.length)
      (free : controlState? states (e :: around) = none) :
        PatchedNode states (e :: around) (e :: around')
  | inside {e shown : Element} {around around' : Lineage} {m : Meta}
      (deep : around.length = around'.length)
      (within : controlState? states (e :: around) = some m) (shows : ShowsState m e shown) :
      PatchedNode states (e :: around) (shown :: around')

section attributes
variable {m m' : Meta} {disabled disabled' : Bool} {attributes : List (String × Json)}

theorem without_disabled_buttonAttributes :
    Entries.without disabledAttribute (buttonAttributes m disabled attributes) =
      Entries.put currentPageAttribute (.text (toString m.currentPage))
        (Entries.without disabledAttribute attributes) := by
  have apart : currentPageAttribute ≠ disabledAttribute := by decide
  cases disabled <;>
    simp [buttonAttributes, Entries.without_put, Entries.without_put_of_ne apart]

theorem buttonAttributes_again :
    buttonAttributes m' disabled' (buttonAttributes m disabled attributes) =
      buttonAttributes m' disabled' attributes := by
  rw [buttonAttributes, without_disabled_buttonAttributes, Entries.put_put, ← buttonAttributes]

theorem lookup_buttonAttributes (key : String) :
    (buttonAttributes m disabled attributes).lookup key =
      if key = disabledAttribute then if disabled then some (.bool true) else none
      else if key = currentPageAttribute then some (.text (toString m.currentPage))
        else attributes.lookup key := by
  have apart : currentPageAttribute ≠ disabledAttribute := by decide
  by_cases first : key = disabledAttribute
  · subst first
    cases disabled <;>
      simp [buttonAttributes, Entries.lookup_put, Entries.lookup_without, Ne.symm apart]
  · cases disabled <;> simp [buttonAttributes, Entries.lookup_put, Entries.lookup_without, first]

theorem others_buttonAttributes :
    ((buttonAttributes m disabled attributes).filter fun a => a.1 ≠ disabledAttribute ∧
      a.1 ≠ currentPageAttribute) =
      attributes.filter fun a => a.1 ≠ disabledAttribute ∧ a.1 ≠ currentPageAttribute := by
  have split : ∀ xs : List (String × Json),
      (xs.filter fun a => a.1 ≠ disabledAttribute ∧ a.1 ≠ currentPageAttribute) =
        Entries.without currentPageAttribute (Entries.without disabledAttribute xs) := by
    intro xs
    simp [Entries.without, List.filter_filter, Bool.and_comm]
  rw [split, split, without_disabled_buttonAttributes, Entries.without_put]

end attributes

theorem buttonClasses_again (disabled disabled' : Bool) (classes : List String) :
    buttonClasses disabled' (buttonClasses disabled classes) = buttonClasses disabled' classes := by
  have same : ((buttonClasses disabled classes).filter fun c => !disabledClasses.contains c) =
      classes.filter fun c => !disabledClasses.contains c := by
    cases disabled <;> simp [buttonClasses, List.filter_filter, disabledClasses]
  rw [buttonClasses, same, ← buttonClasses]

section patchElement
variable (m m' : Meta) (e : Element)

theorem patchElement_eq : patchElement m e =
    { e with
      bindings := { e.bindings with
        text := if endsIn infoSuffix e.id then some (.static m.infoText) else e.bindings.text }
      attributes := if isButton e.id then buttonAttributes m (isDisabled m e.id) e.attributes
        else e.attributes
      classes := if isButton e.id then buttonClasses (isDisabled m e.id) e.classes
        else e.classes } := by
  unfold patchElement
  by_cases info : endsIn infoSuffix e.id = true <;> by_cases button : isButton e.id = true <;>
    simp [info, button]

theorem patchElement_again : patchElement m' (patchElement m e) = patchElement m' e := by
  simp only [patchElement_eq]
  by_cases info : endsIn infoSuffix e.id = true <;> by_cases button : isButton e.id = true <;>
    simp [info, button, buttonAttributes_again, buttonClasses_again]

theorem lookup_target_patchElement :
    (patchElement m e).attributes.lookup targetAttribute = e.attributes.lookup targetAttribute := by
  rw [patchElement_eq]
  have apart : targetAttribute ≠ disabledAttribute ∧ targetAttribute ≠ currentPageAttribute := by
    decide
  by_cases button : isButton e.id = true
  · simp [button, lookup_buttonAttributes, apart]
  · simp [button]

theorem target?_patchElement (states : Entries Meta) : target? states (patchElement m e) =
    target? states e := by
  unfold target?
  rw [lookup_target_patchElement]

theorem isDisabled_iff (id : String) : isDisabled m id = true ↔ LeadsNowhere m id := by
  simp [isDisabled, LeadsNowhere, Meta.isFirstPage, Meta.isLastPage]

theorem patchElement_showsState : ShowsState m e (patchElement m e) where
  rest := by rw [patchElement_eq]
  text := by rw [patchElement_eq]
  plain := by
    intro plain
    simp [patchElement_eq, plain]
  others := by
    rw [patchElement_eq]
    by_cases button : isButton e.id = true
    · simp only [button, if_true, others_buttonAttributes]
    · simp only [button, Bool.false_eq_true, if_false]
  page := by
    intro button
    have apart : currentPageAttribute ≠ disabledAttribute := by decide
    simp [patchElement_eq, button, lookup_buttonAttributes, apart]
  disabled := by
    intro button
    simp only [patchElement_eq, button, if_true, lookup_buttonAttributes, ← isDisabled_iff]
  classes := by
    intro button
    simp only [patchElement_eq, button, if_true, ← isDisabled_iff]
    cases isDisabled m e.id <;> simp [buttonClasses]

end patchElement

section again
variable {states states' : Entries Meta}

mutual
theorem patch_again (m m' : Meta) : ∀ l : Layer, patch m' (patch m l) = patch m' l
  | ⟨e, children⟩ =>
    by rw [patch, patch, patch, patchElement_again, patchForest_again m m' children]

theorem patchForest_again (m m' : Meta) : ∀ ls : List Layer, patchForest m' (patchForest m ls) =
    patchForest m' ls
  | [] => rfl
  | l :: ls =>
    by rw [patchForest, patchForest, patchForest, patch_again m m' l, patchForest_again m m' ls]
end

theorem patchMarked_ok_iff {e : Element} {children : List Layer} {d : Layer} :
    patchMarked states ⟨e, children⟩ = .ok d ↔
      (∃ m, target? states e = .ok (some m) ∧ patch m ⟨e, children⟩ = d) ∨
        target? states e = .ok none ∧ ∃ ds, patchMarkedForest states children = .ok ds ∧
        ⟨e, ds⟩ = d := by
  rw [patchMarked, exceptBind_ok_iff]
  constructor
  · rintro ⟨target, marked, put⟩
    cases target with
    | some m => exact .inl ⟨m, marked, exceptPure_ok_iff.mp put⟩
    | none =>
      simp only [exceptBind_ok_iff, exceptPure_ok_iff] at put
      exact .inr ⟨marked, put⟩
  · rintro (⟨m, marked, rfl⟩ | ⟨marked, ds, below, rfl⟩)
    · exact ⟨some m, marked, rfl⟩
    · refine ⟨none, marked, ?_⟩
      simp only [exceptBind_ok_iff, exceptPure_ok_iff]
      exact ⟨ds, below, rfl⟩

theorem patchMarkedForest_cons_ok_iff {l : Layer} {ls ds : List Layer} :
    patchMarkedForest states (l :: ls) = .ok ds ↔
      ∃ d rest, patchMarked states l = .ok d ∧ patchMarkedForest states ls = .ok rest ∧
        d :: rest = ds := by
  simp only [patchMarkedForest, exceptBind_ok_iff, exceptPure_ok_iff]
  constructor
  · rintro ⟨d, first, rest, others, rfl⟩
    exact ⟨d, rest, first, others, rfl⟩
  · rintro ⟨d, rest, first, others, rfl⟩
    exact ⟨d, first, rest, others, rfl⟩

mutual
theorem patch_patchMarked (m : Meta) : ∀ (l : Layer) {d : Layer}, patchMarked states l = .ok d →
    patch m d = patch m l
  | ⟨e, children⟩, d => by
    intro patched
    rcases patchMarked_ok_iff.mp patched with ⟨before, _, rfl⟩ | ⟨_, ds, below, rfl⟩
    · exact patch_again before m ⟨e, children⟩
    · rw [patch, patch, patchForest_patchMarkedForest m children below]

theorem patchForest_patchMarkedForest (m : Meta) : ∀ (ls : List Layer) {ds : List Layer},
    patchMarkedForest states ls = .ok ds → patchForest m ds = patchForest m ls
  | [], ds => by
    intro patched
    rw [patchMarkedForest, Except.ok.injEq] at patched
    rw [← patched]
  | l :: ls, ds => by
    intro patched
    obtain ⟨d, rest, first, others, rfl⟩ := patchMarkedForest_cons_ok_iff.mp patched
    rw [patchForest, patchForest, patch_patchMarked m l first,
      patchForest_patchMarkedForest m ls others]
end

theorem namedState?_of_target? {e : Element} {found : Option Meta}
    (read : target? states e = .ok found) : namedState? states e = found := by
  unfold target? at read
  unfold namedState?
  cases mark : e.attributes.lookup targetAttribute with
  | none => simpa [mark] using read
  | some j =>
    rw [mark] at read
    cases j with
    | array _ | object _ =>
      dsimp only at read ⊢
      split at read
      · exact Except.ok.inj read
      · cases read
    | _ => simpa using read

theorem target?_of_hasPlainMark {e : Element} (plain : hasPlainMark e = true) :
    target? states e = .ok (namedState? states e) := by
  unfold hasPlainMark at plain
  unfold target? namedState?
  cases mark : e.attributes.lookup targetAttribute with
  | none => rfl
  | some j => cases j <;> simp_all

theorem target?_covered (covered : ∀ id, (states.lookup id).isSome → (states'.lookup id).isSome)
    {e : Element} {m : Meta}
    (marked : target? states e = .ok (some m)) : ∃ m', target? states' e = .ok (some m') := by
  unfold target? at marked ⊢
  split at marked
  · rename_i id _
    split at marked
    · cases marked
    · rename_i nonempty
      have told := covered id (by rw [Except.ok.inj marked]; rfl)
      obtain ⟨m', found⟩ := Option.isSome_iff_exists.mp told
      exact ⟨m', by simp [nonempty, found]⟩
  · split at marked <;> cases marked
  · split at marked <;> cases marked
  · cases marked

mutual
theorem patchMarked_again (covered : ∀ id, (states.lookup id).isSome → (states'.lookup id).isSome) :
    ∀ (l : Layer) {d : Layer}, patchMarked states l = .ok d →
      patchMarked states' d = patchMarked states' l
  | ⟨e, children⟩, d => by
    intro patched
    rcases patchMarked_ok_iff.mp patched with ⟨m, marked, rfl⟩ | ⟨_, ds, below, rfl⟩
    · -- What is a control at first is one again.
      obtain ⟨m', again⟩ := target?_covered covered marked
      have same := patch_again m m' ⟨e, children⟩
      rw [patch] at same ⊢
      rw [patchMarked, patchMarked, target?_patchElement, again]
      exact congrArg Except.ok same
    · -- What is none at first may become one, and then forgets what was put into it.
      rw [patchMarked, patchMarked]
      cases target? states' e with
      | error cause => rfl
      | ok target =>
        cases target with
        | none =>
          change (do return (⟨e, ← patchMarkedForest states' ds⟩ : Layer)) = _
          rw [patchMarkedForest_again covered children below]
          rfl
        | some m' =>
          change Except.ok (patch m' ⟨e, ds⟩) = .ok (patch m' ⟨e, children⟩)
          rw [patch_patchMarked m' ⟨e, children⟩ patched]

theorem patchMarkedForest_again
    (covered : ∀ id, (states.lookup id).isSome → (states'.lookup id).isSome) :
    ∀ (ls : List Layer) {ds : List Layer}, patchMarkedForest states ls = .ok ds →
      patchMarkedForest states' ds = patchMarkedForest states' ls
  | [], ds => by
    intro patched
    rw [patchMarkedForest, Except.ok.injEq] at patched
    rw [← patched]
  | l :: ls, ds => by
    intro patched
    obtain ⟨d, rest, first, others, rfl⟩ := patchMarkedForest_cons_ok_iff.mp patched
    rw [patchMarkedForest, patchMarkedForest, patchMarked_again covered l first,
      patchMarkedForest_again covered ls others]
end

theorem apply_again (covered : ∀ id, (states.lookup id).isSome → (states'.lookup id).isSome)
    {layers once : List Layer}
    (patched : apply states layers = .ok once) : apply states' once = apply states' layers := by
  unfold apply at patched ⊢
  by_cases told : states.isEmpty = true
  · rw [if_pos told, Except.ok.injEq] at patched
    rw [patched]
  · rw [if_neg told] at patched
    have later : states' ≠ [] := by
      rintro rfl
      obtain ⟨⟨id, m⟩, rest, rfl⟩ :=
        List.exists_cons_of_ne_nil (fun none => told (List.isEmpty_iff.mpr none))
      simpa using covered id (by simp)
    rw [if_neg (by simpa using later), if_neg (by simpa using later),
      patchMarkedForest_again covered layers patched]

theorem apply_plain (states : Entries Meta) {layers : List Layer}
    (plain : ∀ l ∈ preorderForest layers, hasPlainMark l.toElement = true) :
    ∃ patched, apply states layers = .ok patched := by
  cases patched : apply states layers with
  | ok ds => exact ⟨ds, rfl⟩
  | error cause =>
    unfold apply at patched
    split at patched
    · cases patched
    · obtain ⟨n, member, fails⟩ := patchMarkedForest_error layers patched
      rw [target?_of_hasPlainMark (plain n member)] at fails
      cases fails

end again

section nodes
variable {states : Entries Meta}

theorem controlState?_cons (e : Element) (around : Lineage) :
    controlState? states (e :: around) = (controlState? states around).or
      (namedState? states e) := by
  simp [controlState?, List.findSome?_append]

mutual
theorem patch_nodes {m : Meta} : ∀ (l : Layer) {around around' : Lineage},
    around.length = around'.length →
    controlState? states (l.toElement :: around) = some m →
      List.Forall₂ (PatchedNode states) (lineages around l) (lineages around' (patch m l))
  | ⟨e, children⟩, around, around' => by
    intro deep within
    rw [patch, lineages, lineages]
    refine .cons (.inside deep within (patchElement_showsState m e)) ?_
    exact patchForest_nodes children (by simp [deep]) within

theorem patchForest_nodes {m : Meta} : ∀ (ls : List Layer) {around around' : Lineage},
    around.length = around'.length →
    controlState? states around = some m →
      List.Forall₂ (PatchedNode states) (forestLineages around ls)
        (forestLineages around' (patchForest m ls))
  | [], around, around' => by
    intro _ _
    exact .nil
  | l :: ls, around, around' => by
    intro deep within
    rw [patchForest, forestLineages, forestLineages]
    refine List.rel_append (patch_nodes l deep ?_) (patchForest_nodes ls deep within)
    rw [controlState?_cons, within]
    rfl
end

mutual
theorem patchMarked_nodes : ∀ (l : Layer) {d : Layer} {around around' : Lineage},
    around.length = around'.length →
    controlState? states around = none → patchMarked states l = .ok d →
      List.Forall₂ (PatchedNode states) (lineages around l) (lineages around' d)
  | ⟨e, children⟩, d, around, around' => by
    intro deep free patched
    have here : controlState? states (e :: around) = namedState? states e := by
      rw [controlState?_cons, free]
      rfl
    rcases patchMarked_ok_iff.mp patched with ⟨m, marked, rfl⟩ | ⟨unmarked, ds, below, rfl⟩
    · exact patch_nodes ⟨e, children⟩ deep (here.trans (namedState?_of_target? marked))
    · have outside := here.trans (namedState?_of_target? unmarked)
      rw [lineages, lineages]
      exact .cons (.outside deep outside)
        (patchMarkedForest_nodes children (by simp [deep]) outside below)

theorem patchMarkedForest_nodes : ∀ (ls : List Layer) {ds : List Layer} {around around' : Lineage},
    around.length = around'.length → controlState? states around = none →
      patchMarkedForest states ls = .ok ds →
      List.Forall₂ (PatchedNode states) (forestLineages around ls) (forestLineages around' ds)
  | [], ds, around, around' => by
    intro _ _ patched
    rw [patchMarkedForest, Except.ok.injEq] at patched
    rw [← patched]
    exact .nil
  | l :: ls, ds, around, around' => by
    intro deep free patched
    obtain ⟨d, rest, first, others, rfl⟩ := patchMarkedForest_cons_ok_iff.mp patched
    rw [forestLineages, forestLineages]
    exact List.rel_append (patchMarked_nodes l deep free first)
      (patchMarkedForest_nodes ls deep free others)
end

theorem controlState?_nil (p : Lineage) : controlState? [] p = none := by
  rw [controlState?, List.findSome?_eq_none_iff]
  intro e _
  unfold namedState?
  split <;> simp

theorem apply_nodes {layers patched : List Layer} (done : apply states layers = .ok patched) :
    List.Forall₂ (PatchedNode states) (forestLineages [] layers) (forestLineages [] patched) := by
  unfold apply at done
  split at done
  · rename_i none
    rw [List.isEmpty_iff.mp none, ← Except.ok.inj done, List.forall₂_same]
    intro p member
    obtain ⟨e, around, rfl, _⟩ := suffix_of_mem_forestLineages layers member
    exact .outside rfl (controlState?_nil _)
  · exact patchMarkedForest_nodes layers rfl rfl done

end nodes

/-- Layers whose marks are no lists or objects can be patched. Patched again, with states of all
    collection layers that had one before, they are as if patched the second time alone. One patch
    leaves all nodes outside of the outermost controls as they are, and within these it changes
    nothing but what tells the page. -/
theorem patches_forget_earlier_ones (layers : List Layer)
    (plain : ∀ l ∈ preorderForest layers, hasPlainMark l.toElement = true) :
    (∀ states states', (∀ id, (states.lookup id).isSome → (states'.lookup id).isSome) →
      ∃ once twice, apply states layers = .ok once ∧ apply states' once = .ok twice ∧
        apply states' layers = .ok twice) ∧
    ∀ states, ∃ patched, apply states layers = .ok patched ∧
      List.Forall₂ (PatchedNode states) (forestLineages [] layers) (forestLineages [] patched) := by
  constructor
  · intro states states' covered
    obtain ⟨once, first⟩ := apply_plain states plain
    obtain ⟨twice, second⟩ := apply_plain states' plain
    exact ⟨once, twice, first, (apply_again covered first).trans second, second⟩
  · intro states
    obtain ⟨patched, done⟩ := apply_plain states plain
    exact ⟨patched, done, apply_nodes done⟩

def stateOn (layerId : String) (page : Int) : Meta where
  layerId := layerId
  collectionId := layerId
  currentPage := page
  totalPages := 3
  totalItems := 6
  itemsPerPage := 2

def nestedControls : Layer :=
  { buildControls "songs" (stateOn "songs" 1) with children :=
    [buildControls "albums" (stateOn "albums" 3)] }

theorem nested_controls_forget_albums :
    (∀ l ∈ preorderForest [nestedControls], hasPlainMark l.toElement = true) ∧
    (∀ id, (List.lookup id [("albums", stateOn "albums" 1)]).isSome →
      (List.lookup id [("songs", stateOn "songs" 2), ("albums", stateOn "albums" 1)]).isSome) ∧
    ∃ once twice, apply [("albums", stateOn "albums" 1)] [nestedControls] = .ok once ∧
      once ≠ [nestedControls] ∧
      apply [("songs", stateOn "songs" 2), ("albums", stateOn "albums" 1)] once = .ok twice ∧
      apply [("songs", stateOn "songs" 2), ("albums", stateOn "albums" 1)] [nestedControls] =
        .ok twice := by
  have plain : ∀ l ∈ preorderForest [nestedControls], hasPlainMark l.toElement = true := by decide
  have covered : ∀ id, (List.lookup id [("albums", stateOn "albums" 1)]).isSome →
      (List.lookup id [("songs", stateOn "songs" 2), ("albums", stateOn "albums" 1)]).isSome := by
    intro id told
    by_cases albums : id = "albums"
    · subst albums
      decide
    · simp [List.lookup_cons, beq_false_of_ne albums] at told
  obtain ⟨once, twice, first, again, second⟩ :=
    (patches_forget_earlier_ones [nestedControls] plain).1 _ _ covered
  refine ⟨plain, covered, once, twice, first, ?_, again, second⟩
  rintro rfl
  exact absurd first (by decide +kernel)

end Pagination
end PageLayers
