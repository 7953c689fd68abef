import PageLayers.Proofs.LayerDocuments
import PageLayers.Proofs.PaginationControls

/-!
New pagination controls that are patched. They are as if built for the later state, but for the
classes of their buttons: a button is built with a class for the pointer where it leads somewhere,
and a patch neither adds nor drops this class.
-/

namespace PageLayers

section endsIn
variable {suffix tail : String}

theorem endsIn_append (s : String) : endsIn suffix (s ++ suffix) = true := by
  simp [endsIn]

theorem not_endsIn_append (apart : ¬ suffix.toList <:+ tail.toList)
    (apart' : ¬ tail.toList <:+ suffix.toList) (s : String) :
    endsIn suffix (s ++ tail) = false := by
  rw [endsIn, Bool.eq_false_iff, Ne, List.isSuffixOf_iff_suffix, String.toList_append]
  intro ends
  exact (List.suffix_or_suffix_of_suffix ends (List.suffix_append ..)).elim apart apart'

end endsIn

namespace Pagination
open Layer

def buttonStyle : List String :=
  ["px-4", "py-2", "rounded", "bg-[#e5e7eb]", "hover:bg-[#d1d5db]", "transition-colors"]

def pointerClass : String := "cursor-pointer"

/-- The classes of a button that was built in one state and is patched with another. -/
def repatchedClasses (before now : Bool) : List String :=
  buttonStyle ++ (if before then [] else [pointerClass]) ++ if now then disabledClasses else []

def withoutButtonClasses (e : Element) : Element :=
  if isButton e.id then { e with classes := [] } else e

def restyled (l : Layer) (classes : List String) : Layer := { l with classes := classes }

def infoLine (layerId : String) (m : Meta) : Layer where
  id := layerId ++ infoSuffix
  name := "span"
  classes := ["text-sm", "text-[#4b5563]"]
  bindings := { text := some (.static m.infoText) }

theorem not_isButton_append {tail : String}
    (apart : ∀ suffix ∈ [prevSuffix, nextSuffix], ¬ suffix.toList <:+ tail.toList ∧
      ¬ tail.toList <:+ suffix.toList) (s : String) :
    isButton (s ++ tail) = false := by
  obtain ⟨prev, prev'⟩ := apart prevSuffix (by simp)
  obtain ⟨next, next'⟩ := apart nextSuffix (by simp)
  rw [isButton, not_endsIn_append prev prev', not_endsIn_append next next']
  rfl

section ids
variable (layerId : String)

theorem endsIn_wrapper : endsIn infoSuffix (layerId ++ "-pagination") = false ∧
    isButton (layerId ++ "-pagination") = false :=
  ⟨not_endsIn_append (by decide) (by decide) _, not_isButton_append (by decide) _⟩

theorem endsIn_info : endsIn infoSuffix (layerId ++ infoSuffix) = true ∧
    isButton (layerId ++ infoSuffix) = false :=
  ⟨endsIn_append _, not_isButton_append (by decide) _⟩

theorem endsIn_label : endsIn infoSuffix (layerId ++ "-text") = false ∧
    isButton (layerId ++ "-text") = false :=
  ⟨not_endsIn_append (by decide) (by decide) _, not_isButton_append (by decide) _⟩

theorem endsIn_button {suffix : String} (either : suffix = prevSuffix ∨ suffix = nextSuffix) :
    endsIn infoSuffix (layerId ++ suffix) = false ∧ isButton (layerId ++ suffix) = true := by
  rcases either with rfl | rfl
  · exact ⟨not_endsIn_append (by decide) (by decide) _, by rw [isButton, endsIn_append]; rfl⟩
  · exact ⟨not_endsIn_append (by decide) (by decide) _, by
      rw [isButton, endsIn_append, Bool.or_true]⟩

end ids

theorem isDisabled_prev (m : Meta) (layerId : String) : isDisabled m (layerId ++ prevSuffix) =
    m.isFirstPage := by
  rw [isDisabled, endsIn_append, not_endsIn_append (by decide) (by decide)]
  simp

theorem isDisabled_next (m : Meta) (layerId : String) : isDisabled m (layerId ++ nextSuffix) =
    m.isLastPage := by
  rw [isDisabled, endsIn_append, not_endsIn_append (by decide) (by decide)]
  simp

theorem patchElement_plain {m : Meta} {e : Element}
    (plain : endsIn infoSuffix e.id = false ∧ isButton e.id = false) : patchElement m e = e := by
  simp [patchElement, plain]

section button
variable (layerId : String) (m m' : Meta) (suffix action label : String) (before now : Bool)

theorem button_attributes : (button layerId m suffix action label now).attributes =
    [(actionAttribute, .text action), (layerAttribute, .text layerId),
      (currentPageAttribute, .text (toString m.currentPage))] ++
      if now then [(disabledAttribute, .bool true)] else [] := rfl

theorem button_classes : (button layerId m suffix action label now).classes =
    buttonStyle ++ if now then disabledClasses else [pointerClass] := rfl

theorem buttonAttributes_button :
    buttonAttributes m' now (button layerId m suffix action label before).attributes =
    (button layerId m' suffix action label now).attributes := by
  rw [button_attributes, button_attributes]
  have others : actionAttribute ≠ disabledAttribute ∧ layerAttribute ≠ disabledAttribute ∧
      currentPageAttribute ≠ disabledAttribute := by decide
  have fresh : actionAttribute ≠ currentPageAttribute ∧ layerAttribute ≠ currentPageAttribute := by
    decide
  cases before <;> cases now <;>
    simp [buttonAttributes, Entries.put, Entries.without, others, fresh]

theorem buttonClasses_button :
    buttonClasses now (button layerId m suffix action label before).classes =
      repatchedClasses before now := by
  rw [button_classes]
  revert before now
  decide

end button

theorem patch_eq (m : Meta) (l : Layer) :
    patch m l = ⟨patchElement m l.toElement, patchForest m l.children⟩ := by
  obtain ⟨e, children⟩ := l
  rw [patch]

theorem patch_button (layerId : String) (m m' : Meta) {suffix : String}
    (either : suffix = prevSuffix ∨ suffix = nextSuffix) (action label : String) (before : Bool) :
    patch m' (button layerId m suffix action label before) =
      restyled (button layerId m' suffix action label (isDisabled m' (layerId ++ suffix)))
        (repatchedClasses before (isDisabled m' (layerId ++ suffix))) := by
  obtain ⟨info, isOne⟩ := endsIn_button layerId either
  have id : (button layerId m suffix action label before).id = layerId ++ suffix := rfl
  have children : patchForest m' (button layerId m suffix action label before).children =
      (button layerId m suffix action label before).children := by
    rw [button, patchForest, patchForest.eq_1, patch, patchForest.eq_1, patchElement_plain]
    exact endsIn_label (layerId ++ suffix)
  rw [patch_eq, children, patchElement_eq, id, info, isOne]
  simp only [if_true, Bool.false_eq_true, if_false, buttonAttributes_button, buttonClasses_button]
  rfl

theorem patch_infoLine (layerId : String) (m m' : Meta) : patch m' (infoLine layerId m) =
    infoLine layerId m' := by
  obtain ⟨info, plain⟩ := endsIn_info layerId
  have id : (infoLine layerId m).id = layerId ++ infoSuffix := rfl
  rw [patch_eq, patchElement_eq, id, info, plain]
  simp only [if_true, Bool.false_eq_true, if_false]
  rfl

theorem buildControls_children (layerId : String) (m : Meta) : (buildControls layerId m).children =
    [button layerId m prevSuffix "prev" "Previous" m.isFirstPage, infoLine layerId m,
      button layerId m nextSuffix "next" "Next" m.isLastPage] := rfl

theorem patch_buildControls (layerId : String) (m m' : Meta) :
    patch m' (buildControls layerId m) =
      { buildControls layerId m' with
        children := [
          restyled (button layerId m' prevSuffix "prev" "Previous" m'.isFirstPage)
            (repatchedClasses m.isFirstPage m'.isFirstPage),
          infoLine layerId m',
          restyled (button layerId m' nextSuffix "next" "Next" m'.isLastPage)
            (repatchedClasses m.isLastPage m'.isLastPage)] } := by
  have wrapper :
      patchElement m' (buildControls layerId m).toElement =
        (buildControls layerId m').toElement := by
    rw [patchElement_plain]
    · rfl
    · exact endsIn_wrapper layerId
  rw [patch_eq, wrapper, buildControls_children, patchForest, patchForest, patchForest, patchForest,
    patch_infoLine, patch_button layerId m m' (.inl rfl), patch_button layerId m m' (.inr rfl),
    isDisabled_prev, isDisabled_next]

theorem apply_buildControls {layerId : String} (named : layerId ≠ "") (m m' : Meta) :
    apply [(layerId, m')] [buildControls layerId m] = .ok [patch m' (buildControls layerId m)] := by
  have mark : (buildControls layerId m).attributes.lookup targetAttribute =
      some (.text layerId) := by
    simp [buildControls, List.lookup_cons, wrapperAttribute, layerAttribute, targetAttribute]
  have target : target? [(layerId, m')] (buildControls layerId m).toElement = .ok (some m') := by
    simp [target?, mark, named]
  have first : patchMarked [(layerId, m')] (buildControls layerId m) =
    .ok (patch m' (buildControls layerId m)) :=
    patchMarked_ok_iff.mpr (.inl ⟨m', target, rfl⟩)
  rw [apply, if_neg (by simp)]
  exact patchMarkedForest_cons_ok_iff.mpr ⟨_, [], first, rfl, rfl⟩

theorem restyled_withoutButtonClasses (l : Layer) (isOne : isButton l.id = true)
    (classes : List String) :
    mapElements withoutButtonClasses (restyled l classes) = mapElements withoutButtonClasses l := by
  obtain ⟨e, children⟩ := l
  have same : withoutButtonClasses { e with classes := classes } = withoutButtonClasses e := by
    simp [withoutButtonClasses, show isButton e.id = true from isOne]
  rw [restyled, mapElements, mapElements, same]

theorem patched_withoutButtonClasses (layerId : String) (m m' : Meta) :
    mapElements withoutButtonClasses (patch m' (buildControls layerId m)) =
      mapElements withoutButtonClasses (buildControls layerId m') := by
  have prev :=
    restyled_withoutButtonClasses (button layerId m' prevSuffix "prev" "Previous" m'.isFirstPage)
    (endsIn_button layerId (.inl rfl)).2 (repatchedClasses m.isFirstPage m'.isFirstPage)
  have next :=
    restyled_withoutButtonClasses (button layerId m' nextSuffix "next" "Next" m'.isLastPage)
    (endsIn_button layerId (.inr rfl)).2 (repatchedClasses m.isLastPage m'.isLastPage)
  rw [patch_buildControls, mapElements, mapElementsForest_eq_map, List.map_cons, List.map_cons,
    List.map_cons, prev, next]
  rfl

theorem restyled_eq_iff {l : Layer} {classes : List String} : restyled l classes = l ↔
    classes = l.classes := by
  obtain ⟨e, children⟩ := l
  constructor
  · intro same
    exact congrArg (fun l : Layer => l.classes) same
  · rintro rfl
    rfl

theorem repatchedClasses_eq_iff {before now : Bool} :
    (repatchedClasses before now = buttonStyle ++ if now then disabledClasses else [pointerClass]) ↔
      before = now := by
  revert before now
  decide

theorem restyled_button_eq_iff {layerId : String} {m : Meta} {suffix action label : String}
    {before now : Bool} :
    restyled (button layerId m suffix action label now) (repatchedClasses before now) =
      button layerId m suffix action label now ↔ before = now := by
  rw [restyled_eq_iff, button_classes, repatchedClasses_eq_iff]

theorem patched_eq_iff (layerId : String) (m m' : Meta) :
    patch m' (buildControls layerId m) = buildControls layerId m' ↔
      m.isFirstPage = m'.isFirstPage ∧ m.isLastPage = m'.isLastPage := by
  rw [patch_buildControls]
  constructor
  · intro same
    have children := congrArg (fun l : Layer => l.children) same
    simpa only [buildControls_children, List.cons.injEq, restyled_button_eq_iff, true_and, and_true]
      using children
  · rintro ⟨first, last⟩
    rw [restyled_button_eq_iff.mpr first, restyled_button_eq_iff.mpr last]
    rfl

theorem mem_preorder_button {layerId : String} {m : Meta} {suffix action label : String}
    {disabled : Bool} {classes : List String} {n : Layer} (isOne : isButton n.id = true)
    (member : n ∈ preorder (restyled (button layerId m suffix action label disabled) classes)) :
    n = restyled (button layerId m suffix action label disabled) classes := by
  have children : (restyled (button layerId m suffix action label disabled) classes).children =
      (button layerId m suffix action label disabled).children := rfl
  rcases mem_preorder_iff.mp member with whole | within
  · exact whole
  · rw [children, button, mem_preorderForest_cons, mem_preorder_iff] at within
    rcases within with (rfl | none) | none
    · exact absurd ((endsIn_label (layerId ++ suffix)).2.symm.trans isOne) (by decide)
    · simp [preorderForest] at none
    · simp [preorderForest] at none

theorem patched_classes (layerId : String) (m m' : Meta) :
    ∀ n ∈ preorder (patch m' (buildControls layerId m)), isButton n.id = true →
      n.classes = repatchedClasses (isDisabled m n.id) (isDisabled m' n.id) := by
  intro n member isOne
  rw [patch_buildControls, mem_preorder_iff] at member
  rcases member with rfl | within
  · exact absurd ((endsIn_wrapper layerId).2.symm.trans isOne) (by decide)
  · simp only [mem_preorderForest_cons] at within
    rcases within with prev | info | next | none
    · obtain rfl := mem_preorder_button isOne prev
      have id : (restyled (button layerId m' prevSuffix "prev" "Previous" m'.isFirstPage)
          (repatchedClasses m.isFirstPage m'.isFirstPage)).id = layerId ++ prevSuffix := rfl
      rw [id, isDisabled_prev, isDisabled_prev]
      rfl
    · rcases mem_preorder_iff.mp info with rfl | none
      · exact absurd ((endsIn_info layerId).2.symm.trans isOne) (by decide)
      · simp [infoLine, preorderForest] at none
    · obtain rfl := mem_preorder_button isOne next
      have id : (restyled (button layerId m' nextSuffix "next" "Next" m'.isLastPage)
          (repatchedClasses m.isLastPage m'.isLastPage)).id = layerId ++ nextSuffix := rfl
      rw [id, isDisabled_next, isDisabled_next]
      rfl
    · simp [preorderForest] at none

/-- Controls that were built for one state of a collection layer with an id and are patched with
    another are as if built for this one, but for the classes of buttons. A button keeps or misses
    the class for the pointer as it was built, so that there is no difference exactly if both
    buttons lead somewhere in the one state just as in the other. -/
theorem patched_controls_are_built_up_to_classes {layerId : String} (named : layerId ≠ "")
    (m m' : Meta) :
    ∃ patched, apply [(layerId, m')] [buildControls layerId m] = .ok [patched] ∧
      mapElements withoutButtonClasses patched =
        mapElements withoutButtonClasses (buildControls layerId m') ∧
      (∀ n ∈ preorder patched, isButton n.id = true →
        n.classes = repatchedClasses (isDisabled m n.id) (isDisabled m' n.id)) ∧
      (patched = buildControls layerId m' ↔ m.isFirstPage = m'.isFirstPage ∧
        m.isLastPage = m'.isLastPage) :=
  ⟨patch m' (buildControls layerId m), apply_buildControls named m m',
    patched_withoutButtonClasses layerId m m',
    patched_classes layerId m m', patched_eq_iff layerId m m'⟩

theorem second_page_misses_pointer :
    apply [("songs", stateOn "songs" 2)] [buildControls "songs" (stateOn "songs" 1)] ≠
      .ok [buildControls "songs" (stateOn "songs" 2)] := by
  decide +kernel

theorem middle_pages_are_patched_as_built : "songs" ≠ "" ∧
    ∃ patched, apply [("songs", { stateOn "songs" 2 with totalPages := 4 })]
      [buildControls "songs" (stateOn "songs" 2)] = .ok [patched] ∧
      patched = buildControls "songs" { stateOn "songs" 2 with totalPages := 4 } := by
  have named : "songs" ≠ "" := by decide
  obtain ⟨patched, done, _, _, same⟩ :=
    patched_controls_are_built_up_to_classes named (stateOn "songs" 2)
      { stateOn "songs" 2 with totalPages := 4 }
  exact ⟨named, patched, done, same.mpr (by decide)⟩

end Pagination
end PageLayers
