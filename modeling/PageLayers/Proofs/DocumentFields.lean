import PageLayers.Layer.Document

/-!
Fields of documents. What a field holds has passed the check of the field. What is written is read
back: single values, lists and maps of what is read back, and records, each of whose fields is
written under the first of its keys.
-/

namespace PageLayers

namespace Document

section fields
variable {α β : Type} {check : Check α} {toJson : α → Json} {keys : List String} {ms : Members}

theorem Checked.map_ok_iff {f : α → β} {c : Checked α} {b : β} : f <$> c = .ok b ↔ ∃ a, c = .ok a ∧
    f a = b := by
  cases c <;> simp [Checked.apply]

theorem Checked.seq_ok_iff {f : Checked (α → β)} {c : Checked α} {b : β} :
    f <*> c = .ok b ↔ ∃ g, f = .ok g ∧ ∃ a, c = .ok a ∧ g a = b := by
  cases f <;> cases c <;> simp [Checked.apply]

/-- Rewritten with this before its parts, a record comes apart into one field after the other. -/
theorem Checked.exists_seq_ok_iff {f : Checked (α → β)} {c : Checked α} {P : β → Prop} :
    (∃ b, f <*> c = .ok b ∧ P b) ↔ ∃ g, f = .ok g ∧ ∃ a, c = .ok a ∧ P (g a) := by
  cases f <;> cases c <;> simp [Checked.apply]

theorem Checked.exists_map_ok_iff {f : α → β} {c : Checked α} {P : β → Prop} :
    (∃ b, f <$> c = .ok b ∧ P b) ↔ ∃ a, c = .ok a ∧ P (f a) := by
  cases c <;> simp [Checked.apply]

theorem Checked.under_ok_iff {c : Checked α} {step : Step} {a : α} : c.under step = .ok a ↔
    c = .ok a := by
  cases c <;> simp [Checked.under]

theorem Checked.andThen_ok_iff {c : Checked α} {next : α → Checked β} {b : β} :
    c.andThen next = .ok b ↔ ∃ a, c = .ok a ∧ next a = .ok b := by
  cases c <;> simp [Checked.andThen]

/-! ### What a field holds -/

theorem record_ok_iff {otherwise : FaultKind} {fields : Members → Checked α} {j : Json} {a : α} :
    record otherwise fields j = .ok a ↔ ∃ ms, j = .object ms ∧ fields ms = .ok a := by
  cases j <;> simp [record, Checked.fault]

theorem checked_of_optional {default a : α} (held : optional keys default check ms = .ok a) :
    a = default ∨ ∃ j, check j = .ok a := by
  unfold optional at held
  split at held
  · exact .inr ⟨_, Checked.under_ok_iff.mp held⟩
  · cases held
    exact .inl rfl

theorem forall_of_perhaps {P : α → Prop} (grants : ∀ {j a}, check j = .ok a → P a) {o : Option α}
    (held : perhaps keys check ms = .ok o) : ∀ a ∈ o, P a := by
  rintro a rfl
  rcases checked_of_optional held with absent | ⟨j, checked⟩
  · cases absent
  · unfold nullable at checked
    split at checked
    · cases checked
    · obtain ⟨b, checked, ⟨⟩⟩ := Checked.map_ok_iff.mp checked
      exact grants checked

theorem checked_of_elementsFrom {n : Nat} {js : List Json} {xs : List α}
    (held : elementsFrom check n js = .ok xs) : ∀ x ∈ xs, ∃ j, check j = .ok x := by
  induction js generalizing n xs with
  | nil => cases held; nofun
  | cons j js ih =>
    simp only [elementsFrom, Checked.seq_ok_iff, Checked.exists_map_ok_iff, Checked.under_ok_iff]
      at held
    obtain ⟨first, checked, rest, others, rfl⟩ := held
    exact List.forall_mem_cons.mpr ⟨⟨j, checked⟩, ih others⟩

theorem checked_of_listOf {j : Json} {xs : List α} (held : listOf check j = .ok xs) : ∀ x ∈ xs, ∃ j,
    check j = .ok x := by
  cases j with
  | array js => exact checked_of_elementsFrom held
  | _ => cases held

/-! ### What is read back -/

/-- A value that is written is read back as it was, and in writing it is not null. -/
structure ReadsBack (check : Check α) (toJson : α → Json) (a : α) : Prop where
  back : check (toJson a) = .ok a
  present : toJson a ≠ .null

theorem nullable_orNull {o : Option α} (each : ∀ a ∈ o, ReadsBack check toJson a) :
    nullable check (orNull toJson o) = .ok o := by
  cases o with
  | none => rfl
  | some a =>
    obtain ⟨back, present⟩ := each a rfl
    simp only [orNull]
    unfold nullable
    split
    · contradiction
    · simp [back]

theorem elementsFrom_map {toJson : β → Json} {f : β → α} {xs : List β}
    (each : ∀ x ∈ xs, check (toJson x) = .ok (f x))
    (n : Nat) : elementsFrom check n (xs.map toJson) = .ok (xs.map f) := by
  induction xs generalizing n with
  | nil => rfl
  | cons x xs ih =>
    obtain ⟨first, rest⟩ := List.forall_mem_cons.mp each
    simp [elementsFrom, first, ih rest]

theorem listOf_ofList {xs : List α} (each : ∀ x ∈ xs, check (toJson x) = .ok x) :
    listOf check (ofList toJson xs) = .ok xs :=
  (elementsFrom_map (f := id) each 0).trans (by rw [List.map_id])

theorem entriesOf_map {m : Entries α} (each : ∀ e ∈ m, check (toJson e.2) = .ok e.2) :
    entriesOf check (m.map fun (k, a) => (k, toJson a)) = .ok m := by
  induction m with
  | nil => rfl
  | cons e m ih =>
    obtain ⟨first, rest⟩ := List.forall_mem_cons.mp each
    simp [entriesOf, first, ih rest]

theorem mapOf_ofEntries {m : Entries α} (each : ∀ e ∈ m, check (toJson e.2) = .ok e.2) :
    mapOf check (ofEntries toJson m) = .ok m := entriesOf_map each

@[simp] theorem mapOf_anything (ms : Members) : mapOf anything (.object ms) = .ok ms := by
  have kept : mapOf anything (ofEntries id ms) = .ok ms := mapOf_ofEntries fun _ _ => rfl
  simpa [ofEntries] using kept

@[simp] theorem record_object {otherwise : FaultKind} {fields : Members → Checked α}
    (ms : Members) :
    record otherwise fields (.object ms) = fields ms := rfl

@[simp] theorem find?_nil (ms : Members) : find? [] ms = none := rfl

@[simp] theorem find?_cons (key : String) (keys : List String) (ms : Members) :
    find? (key :: keys) ms = ((ms.lookup key).map fun j => (key, j)).or (find? keys ms) := by
  unfold find?
  rw [List.findSome?_cons]
  cases ms.lookup key <;> rfl

end fields

section values
variable {α : Type} {ofText? : String → Option α} {name : α → String} {a : α}

@[simp] theorem text_back (s : String) : text (.text s) = .ok s := rfl

@[simp] theorem text_readsBack (s : String) : ReadsBack text .text s := ⟨rfl, nofun⟩

@[simp] theorem listOf_texts (ss : List String) : listOf text (ofList .text ss) = .ok ss :=
  listOf_ofList fun _ _ => rfl

@[simp] theorem texts_readsBack (m : Entries String) : ReadsBack (mapOf text) (ofEntries .text) m :=
  ⟨mapOf_ofEntries fun _ _ => rfl, nofun⟩

@[simp] theorem flag_readsBack (b : Bool) : ReadsBack flag .bool b := ⟨rfl, nofun⟩

@[simp] theorem float_readsBack (x : Binary64) : ReadsBack float .float x := ⟨rfl, nofun⟩

theorem wholeFrom_ofNat {low n : Nat} (enough : low ≤ n) : ReadsBack (wholeFrom low) ofNat n :=
  ⟨by simp [wholeFrom, ofNat, whole, Checked.andThen, Nat.not_lt.mpr enough], nofun⟩

theorem le_of_wholeFrom {low n : Nat} {j : Json} (accepted : wholeFrom low j = .ok n) :
    low ≤ n := by
  obtain ⟨k, -, bounded⟩ := Checked.andThen_ok_iff.mp accepted
  split at bounded
  · cases bounded
  · cases bounded
    omega

theorem named_name (known : ofText? (name a) = some a) : named ofText? (.text (name a)) =
    .ok a := by
  simp [named, known]

theorem word_name (known : ofText? (name a) = some a) : word ofText? (.text (name a)) = .ok a := by
  simp [word, known]

end values

end Document

open Document

theorem FieldType.ofText?_name (t : FieldType) : ofText? t.name = some t := by
  cases t <;> decide +kernel

@[simp] theorem FieldType.readsBack (t : FieldType) :
    ReadsBack FieldType.check FieldType.toJson t :=
  ⟨named_name t.ofText?_name, nofun⟩

theorem SortOrder.ofText?_name (o : SortOrder) : ofText? o.name = some o := by cases o <;> decide

namespace Visibility

theorem ConditionSource.ofText?_name (s : ConditionSource) : ofText? s.name = some s := by
  cases s <;> decide

theorem CountOperator.ofText?_name (o : CountOperator) : ofText? o.name = some o := by
  cases o <;> decide

@[simp] theorem CountOperator.readsBack (o : CountOperator) :
    ReadsBack (named ofText?) (fun o => .text o.name) o :=
  ⟨named_name o.ofText?_name, nofun⟩

theorem Condition.back (c : Condition) : Condition.check c.toJson = .ok c := by
  simp [Condition.check, Condition.toJson, required, Document.optional, perhaps, List.lookup_cons,
    nullable_orNull, named_name, ConditionSource.ofText?_name]

theorem Group.back (g : Group) : Group.check g.toJson = .ok g := by
  simp [Group.check, Group.toJson, Document.optional, perhaps, List.lookup_cons, nullable_orNull,
    listOf_ofList, Condition.back]

@[simp] theorem Expression.readsBack (e : Expression) :
    ReadsBack Expression.check Expression.toJson e := by
  refine ⟨?_, nofun⟩
  simp [Expression.check, Expression.toJson, Document.optional, listOf_ofList, Group.back]

end Visibility

namespace Pagination

theorem Mode.ofText?_name (m : Mode) : ofText? m.name = some m := by cases m <;> decide

def Config.Sound (c : Config) : Prop := ∀ n ∈ c.itemsPerPage, 1 ≤ n

theorem Config.sound_of_checked {j : Json} {c : Config} (accepted : check j = .ok c) : c.Sound := by
  obtain ⟨ms, rfl, fields⟩ := record_ok_iff.mp accepted
  simp only [Checked.seq_ok_iff, ↓Checked.exists_seq_ok_iff, Checked.exists_map_ok_iff] at fields
  obtain ⟨_, -, _, -, _, held, rfl⟩ := fields
  exact forall_of_perhaps le_of_wholeFrom held

theorem Config.readsBack {c : Config} (sound : c.Sound) :
    ReadsBack Config.check Config.toJson c := by
  refine ⟨?_, nofun⟩
  have perPage : nullable (wholeFrom 1) (orNull ofNat c.itemsPerPage) = .ok c.itemsPerPage :=
    nullable_orNull fun n held => wholeFrom_ofNat (sound n held)
  simp [Config.check, Config.toJson, Document.optional, perhaps, List.lookup_cons, perPage,
    word_name, flag, Mode.ofText?_name]

@[simp] theorem Meta.readsBack (m : Meta) : ReadsBack Meta.check Meta.toJson m := by
  refine ⟨?_, nofun⟩
  simp [Meta.check, Meta.toJson, required, List.lookup_cons, whole]

end Pagination

end PageLayers
