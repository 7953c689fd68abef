import PageLayers.Proofs.DocumentFields
import PageLayers.Proofs.Tree

/-!
Documents of layers. A check of a document grants more of a layer than its form: its levels have the
room that there is, a page of it holds something, and unknown settings have none of the known keys.
Layers of which this holds are read back from their dump, apart from the item values that are
stamped on them.
-/

namespace PageLayers
open Document

/-! ### Slots and collections -/

theorem FieldBinding.back (b : FieldBinding) : FieldBinding.check b.toJson = .ok b := by
  simp [FieldBinding.check, FieldBinding.toJson, required, Document.optional, perhaps,
    List.lookup_cons, nullable_orNull]

theorem SlotValue.readsBack {room : Nat} (left : room ≠ 0) (v : SlotValue) :
    ReadsBack (checkWithin room) toJson v := by
  refine ⟨?_, by cases v <;> nofun⟩
  cases v <;>
    simp [toJson, checkWithin, List.lookup_cons, slotTypes, left, checkMembers, Document.optional,
      required, FieldBinding.back, checkContent, checkAssetId, perhaps, nullable_orNull]

theorem SlotValue.room_of_checked {room : Nat} {j : Json} {v : SlotValue}
    (accepted : checkWithin room j = .ok v) : room ≠ 0 := by
  rintro rfl
  unfold checkWithin at accepted
  split at accepted
  · split at accepted
    · cases accepted
    · split at accepted
      · simp [Checked.under, Checked.fault] at accepted
      · cases accepted
    · cases accepted
  · cases accepted

def CollectionSource.Sound (s : CollectionSource) : Prop := ∀ c ∈ s.pagination, c.Sound

theorem CollectionSource.readsBack {s : CollectionSource} (sound : s.Sound) :
    ReadsBack check toJson s := by
  refine ⟨?_, nofun⟩
  have pagination :
    nullable Pagination.Config.check (orNull Pagination.Config.toJson s.pagination) =
      .ok s.pagination :=
    nullable_orNull fun c held => Pagination.Config.readsBack (sound c held)
  have number : ∀ o : Option Nat, nullable (wholeFrom 0) (orNull ofNat o) = .ok o := fun o =>
    nullable_orNull fun n _ => wholeFrom_ofNat n.zero_le
  simp [check, toJson, checkType, required, Document.optional, perhaps, List.lookup_cons,
    nullable_orNull, word, SortOrder.ofText?_name, number, pagination]

theorem CollectionSource.sound_of_checked {j : Json} {s : CollectionSource}
    (accepted : check j = .ok s) : s.Sound := by
  obtain ⟨ms, rfl, fields⟩ := record_ok_iff.mp accepted
  simp only [Checked.seq_ok_iff, ↓Checked.exists_seq_ok_iff, Checked.exists_map_ok_iff] at fields
  obtain ⟨-, -, _, -, _, -, _, -, _, -, _, -, _, -, _, -, _, -, _, held, rfl⟩ := fields
  exact forall_of_perhaps Pagination.Config.sound_of_checked held

/-! ### Bindings and settings -/

structure Bindings.FitsIn (room : Nat) (v : Bindings) : Prop where
  slots : ∀ s, ∀ _ ∈ v.get s, room ≠ 0
  collection : ∀ c ∈ v.collection, c.Sound

theorem Bindings.fitsIn_none {room : Nat} : ({} : Bindings).FitsIn room where
  slots s a held := by cases s <;> cases held
  collection c held := by cases held

theorem Bindings.fitsIn_of_checked {room : Nat} {j : Json} {v : Bindings}
    (accepted : checkWithin room j = .ok v) : v.FitsIn room := by
  obtain ⟨ms, rfl, fields⟩ := record_ok_iff.mp accepted
  simp only [Checked.seq_ok_iff, ↓Checked.exists_seq_ok_iff, Checked.exists_map_ok_iff] at fields
  obtain ⟨_, heldText, _, heldImage, _, heldVideo, _, heldIcon, _, heldLink, _, heldSource, _, -,
    rfl⟩ := fields
  constructor
  · have slot {key : String} {o : Option SlotValue}
      (held : perhaps [key] (SlotValue.checkWithin room) ms = .ok o) :
        ∀ _ ∈ o, room ≠ 0 := forall_of_perhaps SlotValue.room_of_checked held
    rintro (_ | _)
    exacts [slot heldText, slot heldImage, slot heldVideo, slot heldIcon, slot heldLink]
  · exact forall_of_perhaps CollectionSource.sound_of_checked heldSource

theorem Bindings.back {room : Nat} {v : Bindings} (fits : v.FitsIn room) :
    checkWithin room v.toJson = .ok v := by
  have slot : ∀ s o, v.get s = o →
      nullable (SlotValue.checkWithin room) (orNull SlotValue.toJson o) = .ok o := by
    rintro s o rfl
    exact nullable_orNull fun a held => SlotValue.readsBack (fits.slots s a held) a
  have collection : nullable CollectionSource.check (orNull CollectionSource.toJson v.collection) =
    .ok v.collection :=
    nullable_orNull fun c held => CollectionSource.readsBack (fits.collection c held)
  simp [checkWithin, toJson, Document.optional, perhaps, List.lookup_cons, nullable_orNull,
    collection, slot .text v.text rfl, slot .image v.image rfl, slot .video v.video rfl,
    slot .icon v.icon rfl, slot .link v.link rfl]

def ElementSettings.Sound (s : ElementSettings) : Prop :=
  ∀ key ∈ s.others.map Prod.fst, key ∉ ["tag", "hidden", "customAttributes"]

theorem ElementSettings.sound_of_checked {j : Json} {s : ElementSettings}
    (accepted : check j = .ok s) : s.Sound := by
  obtain ⟨ms, rfl, fields⟩ := record_ok_iff.mp accepted
  simp only [Checked.seq_ok_iff, ↓Checked.exists_seq_ok_iff, Checked.exists_map_ok_iff] at fields
  obtain ⟨_, -, _, -, _, -, others, ⟨⟩, rfl⟩ := fields
  refine List.forall_mem_map.mpr fun m other => ?_
  have unknown := (List.mem_filter.mp other).2
  simp only [isOtherSetting, Bool.and_eq_true, decide_eq_true_eq] at unknown
  simp [unknown]

theorem ElementSettings.filter_isOtherSetting {s : ElementSettings} (sound : s.Sound)
    (tag hidden attributes : Json) :
    let ms := ("tag", tag) :: ("hidden", hidden) :: ("customAttributes", attributes) :: s.others
    (ms.filter fun (key, _) => isOtherSetting ms key) = s.others := by
  simpa [List.filter_cons, isOtherSetting, List.lookup_cons, List.filter_eq_self, and_assoc]
    using List.forall_mem_map.mp sound

theorem ElementSettings.readsBack {s : ElementSettings} (sound : s.Sound) :
    ReadsBack check (toJsonWith id) s := by
  refine ⟨?_, nofun⟩
  simp [check, toJsonWith, customAttributeKeys, Document.optional, perhaps, List.lookup_cons,
    nullable_orNull, filter_isOtherSetting sound]

/-! ### Elements -/

def Element.withoutItemValues (e : Element) : Element := { e with itemValues := none }

structure Element.FitsIn (room : Nat) (e : Element) : Prop where
  bindings : e.bindings.FitsIn room
  settings : ∀ s ∈ e.settings, s.Sound

theorem Element.fitsIn_of_checked {room : Nat} {ms : Members} {e : Element}
    (accepted : checkMembers room ms = .ok e) : e.FitsIn room := by
  simp only [checkMembers, Checked.seq_ok_iff, ↓Checked.exists_seq_ok_iff,
    Checked.exists_map_ok_iff] at accepted
  obtain ⟨_, -, _, -, _, -, _, -, _, heldBindings, _, -, _, heldSettings, _, -, _, -, _, -, _, -, _,
    -, rfl⟩ := accepted
  constructor
  · rcases checked_of_optional heldBindings with rfl | ⟨j, checked⟩
    · exact Bindings.fitsIn_none
    · exact Bindings.fitsIn_of_checked checked
  · exact forall_of_perhaps ElementSettings.sound_of_checked heldSettings

theorem checkClasses_ofList (classes : List String) : checkClasses (ofList .text classes) =
    .ok classes :=
  listOf_texts classes

theorem Element.levels_le {room : Nat} {e : Element} (fits : e.FitsIn room) :
    e.levels ≤ room + 1 := by
  unfold levels
  split
  · omega
  · rename_i populated
    obtain ⟨s, held⟩ := List.isEmpty_eq_false_iff_exists_mem.mp (eq_false_of_ne_true populated)
    obtain ⟨a, value⟩ := Option.isSome_iff_exists.mp (List.mem_filter.mp held).2
    have left := fits.bindings.slots s a value
    omega

/-! ### Layers -/

namespace Layer

mutual
def mapElements (f : Element → Element) : Layer → Layer
  | ⟨e, children⟩ => ⟨f e, mapElementsForest f children⟩

def mapElementsForest (f : Element → Element) : List Layer → List Layer
  | [] => []
  | l :: ls => mapElements f l :: mapElementsForest f ls
end

/-- What a check grants about a layer: its elements fit the room that is left for each. -/
inductive FitsIn : Nat → Layer → Prop
  | node {room : Nat} {e : Element} {children : List Layer} (element : e.FitsIn room)
      (each : ∀ l ∈ children, FitsIn room l) :
    FitsIn (room + 1) ⟨e, children⟩

theorem mapElementsForest_eq_map (f : Element → Element) (ls : List Layer) :
    mapElementsForest f ls = ls.map (mapElements f) := by
  induction ls with
  | nil => rfl
  | cons l ls ih => simp [mapElementsForest, ih]

theorem forestToJsonWith_eq_map (free : Members → Members) (more : Element → Members)
    (ls : List Layer) : forestToJsonWith free more ls = ls.map (toJsonWith free more) := by
  induction ls with
  | nil => rfl
  | cons l ls ih => simp [forestToJsonWith, ih]

theorem forestDepthWith_le_iff {own : Element → Nat} {n : Nat} {ls : List Layer} :
    forestDepthWith own ls ≤ n ↔ ∀ l ∈ ls, depthWith own l ≤ n := by
  induction ls with
  | nil => simp [forestDepthWith]
  | cons l ls ih => rw [forestDepthWith, Nat.max_le, ih, List.forall_mem_cons]

theorem checkElements_eq (room n : Nat) (js : List Json) : checkElements room n js =
    elementsFrom (checkWithin room) n js := by
  induction js generalizing n with
  | nil => rfl
  | cons j js ih => simp [checkElements, elementsFrom, ih]

theorem checkForestWithin_eq (room : Nat) : checkForestWithin room = listOf (checkWithin room) := by
  funext j
  cases j with
  | array js => exact checkElements_eq room 0 js
  | _ => rfl

theorem checkChildren_eq (room : Nat) (ms : Members) :
    checkChildren room ms = Document.optional ["children"] [] (listOf (checkWithin room)) ms := by
  induction ms with
  | nil => rfl
  | cons m ms ih =>
    obtain ⟨key, j⟩ := m
    by_cases children : key = "children"
    · simp [checkChildren, children, Document.optional, checkForestWithin_eq]
    · have other : ("children" == key) = false := by simpa using Ne.symm children
      simp [checkChildren, children, ih, Document.optional, List.lookup_cons, other]

theorem element_back {room : Nat} {e : Element} (fits : e.FitsIn room) (j : Json) :
    Element.checkMembers room (e.toMembers id ++ [("children", j)]) = .ok e.withoutItemValues := by
  have settings :
    nullable ElementSettings.check (orNull (ElementSettings.toJsonWith id) e.settings) =
      .ok e.settings :=
    nullable_orNull fun s held => ElementSettings.readsBack (fits.settings s held)
  simp [Element.checkMembers, Element.toMembers, Element.withoutItemValues, required,
    Document.optional, perhaps, List.lookup_cons, nullable_orNull, checkClasses_ofList,
    Bindings.back fits.bindings, settings]

theorem checkWithin_object (room : Nat) (ms : Members) :
    checkWithin (room + 1) (.object ms) =
      Layer.mk <$> Element.checkMembers room ms <*>
        Document.optional ["children"] [] (listOf (checkWithin room)) ms := by
  rw [checkWithin, checkChildren_eq]

theorem fitsIn_of_checked {room : Nat} {j : Json} {l : Layer}
    (accepted : checkWithin room j = .ok l) : l.FitsIn room := by
  induction room generalizing j l with
  | zero =>
    rw [checkWithin] at accepted
    cases accepted
  | succ room ih =>
    cases j with
    | object ms =>
      simp only [checkWithin_object, Checked.seq_ok_iff, Checked.exists_map_ok_iff] at accepted
      obtain ⟨e, element, children, held, rfl⟩ := accepted
      refine .node (Element.fitsIn_of_checked element) fun child within => ?_
      rcases checked_of_optional held with rfl | ⟨j, checked⟩
      · cases within
      · obtain ⟨j, checked⟩ := checked_of_listOf checked child within
        exact ih checked
    | _ => cases accepted

theorem FitsIn.levels_le {room : Nat} {l : Layer} (fits : l.FitsIn room) : l.levels ≤ room := by
  induction fits with
  | @node room e children element each ih =>
    exact Nat.max_le.mpr
      ⟨Element.levels_le element, Nat.succ_le_succ (forestDepthWith_le_iff.mpr ih)⟩

def withoutItemValues : Layer → Layer := mapElements Element.withoutItemValues

theorem FitsIn.back {room : Nat} {l : Layer} (fits : l.FitsIn room) :
    checkWithin room (l.toJsonWith id fun _ => []) = .ok l.withoutItemValues := by
  induction fits with
  | @node room e children element each ih =>
    have children : elementsFrom (checkWithin room) 0 (children.map (toJsonWith id fun _ => [])) =
        .ok (children.map withoutItemValues) := elementsFrom_map ih 0
    rw [toJsonWith, forestToJsonWith_eq_map, checkWithin_object, element_back element]
    simp [Document.optional, Element.toMembers, List.lookup_cons, listOf, children,
      withoutItemValues, mapElements, mapElementsForest_eq_map]

end Layer

/-! ### Numbers that are not finite -/

def ElementSettings.finite (s : ElementSettings) : ElementSettings :=
  { s with others := Json.finiteMembers s.others }

def Element.finite (e : Element) : Element :=
  { e with attributes := Json.finiteMembers e.attributes, settings :=
    e.settings.map ElementSettings.finite }

theorem Json.keys_finiteMembers (ms : Members) : (finiteMembers ms).map Prod.fst =
    ms.map Prod.fst := by
  induction ms with
  | nil => rfl
  | cons m ms ih => simp only [finiteMembers, List.map_cons, ih]

theorem ElementSettings.Sound.finite {s : ElementSettings} (sound : s.Sound) : s.finite.Sound := by
  rwa [Sound, ElementSettings.finite, Json.keys_finiteMembers]

theorem Element.FitsIn.finite {room : Nat} {e : Element} (fits : e.FitsIn room) :
    e.finite.FitsIn room := by
  refine ⟨fits.bindings, fun s held => ?_⟩
  obtain ⟨s', held', rfl⟩ := Option.map_eq_some_iff.mp held
  exact (fits.settings s' held').finite

namespace Layer

def finite : Layer → Layer := mapElements Element.finite

theorem FitsIn.finite {room : Nat} {l : Layer} (fits : l.FitsIn room) : l.finite.FitsIn room := by
  induction fits with
  | @node room e children element each ih =>
    rw [Layer.finite, mapElements, mapElementsForest_eq_map]
    exact .node element.finite (List.forall_mem_map.mpr ih)

theorem toMembers_finite (e : Element) :
    e.finite.toMembers id = e.toMembers Json.finiteMembers := by
  cases settings : e.settings <;>
    simp [Element.toMembers, Element.finite, settings, orNull, ElementSettings.finite,
      ElementSettings.toJsonWith]

mutual
theorem toJsonWith_finite : ∀ l : Layer,
    l.finite.toJsonWith id (fun _ => []) = l.toJsonWith Json.finiteMembers fun _ => []
  | ⟨e, children⟩ => by
    rw [finite, mapElements, toJsonWith, toJsonWith, toMembers_finite,
      forestToJsonWith_finite children]

theorem forestToJsonWith_finite : ∀ ls : List Layer,
    forestToJsonWith id (fun _ => []) (mapElementsForest Element.finite ls) =
      forestToJsonWith Json.finiteMembers (fun _ => []) ls
  | [] => rfl
  | l :: ls => by
    rw [mapElementsForest, forestToJsonWith, forestToJsonWith, ← toJsonWith_finite l,
      forestToJsonWith_finite ls]
    rfl
end

/-- Layers are read back as they were: of every layer that a document is read as, whatever forms the
    document has for its fields, there is a dump, and it is read as the layer, apart from the item
    values that are stamped on it and on those within it. Where the layer can be written, the
    writing is read as the layer with nulls for the numbers in attributes and unknown settings that
    are not finite. -/
theorem accepted_layers_are_read_back {document : Json} {l : Layer}
    (accepted : check document = .ok l) :
    (∃ dumped, l.dump = .ok dumped ∧ check dumped = .ok l.withoutItemValues) ∧
      ∀ written, l.write = .ok written → check written = .ok l.finite.withoutItemValues := by
  have fits : l.FitsIn depthLimit := fitsIn_of_checked accepted
  constructor
  · exact ⟨_, if_pos fits.levels_le, fits.back⟩
  · intro written can
    unfold write writeWith at can
    split at can
    · cases can
      rw [← toJsonWith_finite]
      exact fits.finite.back
    · cases can

/-- A document with names of both kinds, a text of classes, numbers and truth values in other forms,
    a type of fields with a hyphen, item values, and members that are not known. -/
def heroDocument : Json := .object [
  ("id", .text "hero"),
  ("custom_name", .text "Hero"),
  ("classes", .text "flex  items-center"),
  ("theme", .int 1),
  ("variables", .object [
    ("text", .object [("type", .text "field"), ("data", .object [
      ("field_id", .text "tags"), ("field_type", .text "Multi-Reference")])]),
    ("collection", .object [("id", .text "posts"), ("limit", .text " 10 "),
      ("pagination", .object [("enabled", .text "on"), ("items_per_page", .bool true)])]),
    ("conditional_visibility", .object [("groups", .array [.object [("conditions", .array [.object [
      ("source", .text "page_collection"), ("operator", .text "item_count"),
        ("compareValue", .int 2)]])]])])]),
  ("children", .array [.object [
    ("id", .text "note"),
    ("collection_item_values", .object [("title", .text "First")]),
    ("settings",
      .object [("hidden", .int 0), ("custom_attributes", .object [("role", .text "note")]),
      ("gap", .float (.infinite false))])]])]

def heroLayer : Layer where
  id := "hero"
  customName := some "Hero"
  classes := ["flex", "items-center"]
  bindings := {
    text := some (.field { fieldId := "tags", fieldType := some .multiReference })
    collection :=
      some
        { id := "posts", limit := some 10, pagination :=
          some { enabled := true, itemsPerPage := some 1 } }
    visibility := some { groups := [{ conditions := [{
      source := .pageCollection, operator := "item_count", compareValue := some (.ofInt 2) }] }] } }
  children := [{
    id := "note"
    itemValues := some [("title", "First")]
    settings := some {
      hidden := some false, customAttributes := some [("role", "note")], others :=
        [("gap", .float (.infinite false))] } }]

theorem hero_is_read_back :
    check heroDocument = .ok heroLayer ∧
      (∃ dumped, heroLayer.dump = .ok dumped ∧ check dumped = .ok heroLayer.withoutItemValues) ∧
      (∃ written, heroLayer.write = .ok written ∧
        check written = .ok heroLayer.finite.withoutItemValues) ∧
      heroLayer.finite ≠ heroLayer := by
  have accepted : check heroDocument = .ok heroLayer := by decide +kernel
  obtain ⟨dumps, writes⟩ := accepted_layers_are_read_back accepted
  exact ⟨accepted, dumps, ⟨_, rfl, writes _ rfl⟩, by decide +kernel⟩

end Layer
end PageLayers
