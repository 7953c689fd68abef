import PageLayers.Page
import PageLayers.Proofs.ComponentCycles
import PageLayers.Proofs.Failures
import PageLayers.Proofs.ReferenceValues
import PageLayers.Proofs.VisibleLineages
import PageLayers.Store.Faults

/-!
Why a stage of a resolution fails, each stage by itself: what stands in the stored data that it
cannot read. A source that reports no violation is no cause of a failure, since bindings and
references get over all that it may fail with.
-/

namespace PageLayers

/-- No failure of the source is a violation. -/
structure DataSource.Calm (source : DataSource) : Prop where
  items : ∀ id v query cause, (source.items id v query).result = .error cause →
    cause.isViolation = false
  item : ∀ id v cause, (source.item id v).result = .error cause → cause.isViolation = false
  fields : ∀ id v cause, (source.fields id v).result = .error cause → cause.isViolation = false

theorem Repository.source_calm (r : Repository) : r.source.Calm where
  items id v query cause failed := by
    simp only [source, Repository.items] at failed
    split at failed
    · simp at failed
    · rw [Except.error.injEq] at failed
      exact failed ▸ rfl
  item id v cause failed := by simp [source] at failed
  fields id v cause failed := by simp [source] at failed

theorem FaultKind.reply_error {α : Type} {faults : Entries FaultKind} {key : String}
    {sound : Reply α} {cause : Failure} (failed : (reply faults key sound).result = .error cause) :
    sound.result = .error cause ∨ ∃ kind, (key, kind) ∈ faults ∧ cause = kind.failure key := by
  unfold reply at failed
  split at failed
  · rename_i kind found
    rw [Except.error.injEq] at failed
    exact .inr ⟨kind, Repository.mem_of_lookup found, failed.symm⟩
  · exact .inl failed

theorem DataSource.Calm.withFaults {source : DataSource} (calm : source.Calm) {faults : Faults}
    (harmless : ∀ fault ∈ faults.items ++ faults.item ++ faults.fields, fault.2 ≠ .violation) :
    (source.withFaults faults).Calm := by
  have failure : ∀ (key : String) (kind : FaultKind), (key, kind) ∈ faults.items ++ faults.item ++
    faults.fields →
      (kind.failure key).isViolation = false := by
    intro key kind member
    cases kind with
    | violation => exact absurd rfl (harmless _ member)
    | breakdown => rfl
    | unavailable => rfl
  constructor
  · intro id v query cause failed
    rcases FaultKind.reply_error failed with sound | ⟨kind, member, rfl⟩
    · exact calm.items id v query cause sound
    · exact failure id kind (List.mem_append_left _ (List.mem_append_left _ member))
  · intro id v cause failed
    rcases FaultKind.reply_error failed with sound | ⟨kind, member, rfl⟩
    · exact calm.item id v cause sound
    · exact failure id kind (List.mem_append_left _ (List.mem_append_right _ member))
  · intro id v cause failed
    rcases FaultKind.reply_error failed with sound | ⟨kind, member, rfl⟩
    · exact calm.fields id v cause sound
    · exact failure id kind (List.mem_append_right _ member)

namespace Outcome
variable {α β : Type}

theorem all_error {os : List (Outcome α)} {cause : Failure}
    (failed : (all os).result = .error cause) : ∃ o ∈ os, o.result = .error cause := by
  induction os with
  | nil => simp [all] at failed
  | cons o os ih =>
    rw [all] at failed
    rcases both_error_iff.mp (map_error_iff.mp failed) with first | ⟨_, later⟩
    · exact ⟨o, List.mem_cons_self, first⟩
    · obtain ⟨o', member, fails⟩ := ih later
      exact ⟨o', List.mem_cons_of_mem _ member, fails⟩

theorem foldlM_error {f : β → α → Outcome β} {as : List α} {b : β} {cause : Failure}
    (failed : (as.foldlM f b).result = .error cause) : ∃ a ∈ as, ∃ b',
      (f b' a).result = .error cause := by
  induction as generalizing b with
  | nil => simp at failed
  | cons a as ih =>
    rw [List.foldlM_cons] at failed
    rcases bind_error_iff.mp failed with first | ⟨b', _, later⟩
    · exact ⟨a, List.mem_cons_self, b, first⟩
    · obtain ⟨a', member, b'', fails⟩ := ih later
      exact ⟨a', List.mem_cons_of_mem _ member, b'', fails⟩

end Outcome

theorem Json.readStored?_error {cs : List Char} {room : Nat} {cause : Failure}
    (failed : readStored? cs room = .error cause) :
    cause = .oversizedInteger ∨ cause = .tooDeep := by
  unfold readStored? at failed
  split at failed <;> simp_all

theorem References.decode_error {type : Option FieldType} {raw : Option String} {room : Nat}
    {cause : Failure} (failed : decode type raw room = .error cause) : cause = .oversizedInteger ∨
    cause = .tooDeep := by
  unfold decode at failed
  split at failed
  · simp at failed
  · split at failed
    · simp at failed
    · split at failed
      · simp at failed
      · unfold decodeList at failed
        split at failed
        · simp at failed
        · simp at failed
        · rename_i e read
          rw [Except.error.injEq] at failed
          exact failed ▸ Json.readStored?_error read

theorem References.decodeGiven_error {type : Option FieldType} {j : Json} {cause : Failure}
    (failed : decodeGiven type j = .error cause) : cause = .oversizedInteger ∨
    cause = .tooDeep := by
  unfold decodeGiven at failed
  split at failed
  · exact decode_error (exceptMap_error_iff.mp failed)
  · simp at failed

namespace Token

def Unreadable (text : String) (cause : Failure) : Prop :=
  ∃ payload, Text.Piece.token payload ∈ Text.pieces recognize text.toList ∧
    path payload = .error cause

theorem texts_error {js : List Json} {cause : Failure} (failed : texts js = .error cause) :
    cause = .malformedPath := by
  induction js with
  | nil => simp [texts] at failed
  | cons j js ih =>
    cases j with
    | text s =>
      simp only [texts, exceptBind_error_iff, exceptPure_error_iff, and_false, exists_false,
        or_false] at failed
      exact ih failed
    | _ => simpa [texts, eq_comm] using failed

theorem relationships_error {data : List (String × Json)} {cause : Failure}
    (failed : relationships data = .error cause) : cause = .malformedPath := by
  unfold relationships at failed
  split at failed
  · simp at failed
  · split at failed
    · simp at failed
    · split at failed
      · simp at failed
      · simp at failed
      · simp at failed
      · simpa [eq_comm] using failed

theorem path_error {payload : List Char} {cause : Failure} (failed : path payload = .error cause) :
    cause = .malformedPath ∨ cause = .oversizedInteger ∨ cause = .tooDeep := by
  unfold path at failed
  split at failed
  · rename_i j _
    unfold jsonPath at failed
    split at failed
    · split at failed
      · unfold dataPath at failed
        split at failed
        · simp at failed
        · split at failed
          · simp only [exceptBind_error_iff, exceptPure_error_iff, and_false, exists_false,
              or_false] at failed
            rcases failed with first | ⟨_, _, later⟩
            · exact .inl (relationships_error first)
            · exact .inl (texts_error later)
          · simp at failed
      · simp at failed
    · simp at failed
  · simp at failed
  · rename_i e read
    rw [Except.error.injEq] at failed
    exact .inr (failed ▸ Json.readStored?_error read)

theorem joinPieces_error {values : Values} {ps : List (Text.Piece (List Char))} {cause : Failure}
    (failed : joinPieces values ps = .error cause) : ∃ payload, .token payload ∈ ps ∧
    path payload = .error cause := by
  induction ps with
  | nil => simp [joinPieces] at failed
  | cons piece ps ih =>
    cases piece with
    | literal c =>
      simp only [joinPieces, exceptBind_error_iff, exceptPure_error_iff, and_false, exists_false,
        or_false] at failed
      obtain ⟨payload, member, fails⟩ := ih failed
      exact ⟨payload, List.mem_cons_of_mem _ member, fails⟩
    | token payload =>
      simp only [joinPieces, exceptBind_error_iff, exceptPure_error_iff, and_false, exists_false,
        or_false] at failed
      rcases failed with first | ⟨_, _, later⟩
      · refine ⟨payload, List.mem_cons_self, ?_⟩
        unfold replacement at first
        rcases exceptBind_error_iff.mp first with unread | ⟨named, _, none⟩
        · exact unread
        · cases named <;> simp [exceptPure_error_iff] at none
      · obtain ⟨other, member, fails⟩ := ih later
        exact ⟨other, List.mem_cons_of_mem _ member, fails⟩

theorem resolve_error {values : Values} {text : String} {cause : Failure}
    (failed : resolve (some values) text = .error cause) : Unreadable text cause := by
  simp only [resolve, exceptBind_error_iff, exceptPure_error_iff, and_false, exists_false, or_false]
    at failed
  exact joinPieces_error failed

end Token

theorem Token.Unreadable.harmless {text : String} {cause : Failure}
    (unreadable : Token.Unreadable text cause) : cause.isViolation = false := by
  obtain ⟨_, _, failed⟩ := unreadable
  rcases Token.path_error failed with rfl | rfl | rfl <;> rfl

theorem SlotValue.inject_error {values : Values} {v : SlotValue} {cause : Failure}
    (failed : v.inject values = .error cause) :
    ∃ content, v = .dynamicText content ∧ Token.Unreadable content cause := by
  cases v with
  | static value => simp [inject] at failed
  | asset id => simp [inject] at failed
  | field binding =>
    simp only [inject] at failed
    split at failed <;> simp at failed
  | dynamicText content =>
    exact ⟨content, rfl, Token.resolve_error (exceptMap_error_iff.mp failed)⟩

section fill
variable {filler : Filler} {cause : Failure}

theorem fillSlot_error {v : Option SlotValue} (failed : fillSlot filler v = .error cause) :
    ∃ value, v = some value ∧ filler value = .error cause := by
  cases v with
  | none => simp [fillSlot] at failed
  | some value => exact ⟨value, rfl, exceptMap_error_iff.mp failed⟩

theorem Bindings.fill_error {v : Bindings} (failed : v.fill filler = .error cause) :
    ∃ slot, fillSlot filler (v.get slot) = .error cause := by
  simp only [fill, exceptBind_error_iff, exceptPure_error_iff, and_false, exists_false, or_false]
    at failed
  rcases failed with text | ⟨_, _, image | ⟨_, _, video | ⟨_, _, icon | ⟨_, _, link⟩⟩⟩⟩
  · exact ⟨.text, text⟩
  · exact ⟨.image, image⟩
  · exact ⟨.video, video⟩
  · exact ⟨.icon, icon⟩
  · exact ⟨.link, link⟩

namespace Layer

mutual
theorem fill_error : ∀ l : Layer, fill filler l = .error cause →
    ∃ n ∈ preorder l, ∃ slot v, n.bindings.get slot = some v ∧ filler v = .error cause
  | ⟨e, children⟩ => by
    intro failed
    unfold fill at failed
    split at failed
    · simp at failed
    · simp only [Element.fill, exceptBind_error_iff, exceptPure_error_iff, and_false, exists_false,
        or_false] at failed
      rcases failed with first | ⟨_, _, later⟩
      · obtain ⟨slot, fails⟩ := Bindings.fill_error first
        obtain ⟨v, value, unfilled⟩ := fillSlot_error fails
        exact ⟨⟨e, children⟩, mem_preorder_iff.mpr (.inl rfl), slot, v, value, unfilled⟩
      · obtain ⟨n, member, fails⟩ := fillForest_error children later
        exact ⟨n, mem_preorder_iff.mpr (.inr member), fails⟩

theorem fillForest_error : ∀ ls : List Layer, fillForest filler ls = .error cause →
    ∃ n ∈ preorderForest ls, ∃ slot v, n.bindings.get slot = some v ∧ filler v = .error cause
  | [] => by simp [fillForest]
  | l :: ls => by
    intro failed
    simp only [fillForest, exceptBind_error_iff, exceptPure_error_iff, and_false, exists_false,
      or_false] at failed
    rcases failed with first | ⟨_, _, later⟩
    · obtain ⟨n, member, fails⟩ := fill_error l first
      exact ⟨n, mem_preorderForest_cons.mpr (.inl member), fails⟩
    · obtain ⟨n, member, fails⟩ := fillForest_error ls later
      exact ⟨n, mem_preorderForest_cons.mpr (.inr member), fails⟩
end

theorem injectForest_error {values : Values} {layers : List Layer}
    (failed : injectForest values layers = .error cause) :
    (∃ n ∈ preorderForest layers, ∃ slot content, n.bindings.get slot =
      some (.dynamicText content) ∧
      Token.Unreadable content cause) ∨ cause = .tooDeep ∧
        forestTokensFit tokenRoom layers = false := by
  unfold injectForest fillFittingForest at failed
  rcases exceptBind_error_iff.mp failed with unfilled | ⟨_, _, unfit⟩
  · obtain ⟨n, member, slot, v, value, fails⟩ := fillForest_error layers unfilled
    obtain ⟨content, rfl, unread⟩ := SlotValue.inject_error fails
    exact .inl ⟨n, member, slot, content, value, unread⟩
  · split at unfit
    · simp [exceptPure_error_iff] at unfit
    · rename_i fits
      simp only [throw, throwThe, MonadExceptOf.throw, Except.error.injEq] at unfit
      exact .inr ⟨unfit.symm, by simpa using fits⟩

end Layer
end fill

namespace References
variable {source : DataSource} {v : Variant} {cause : Failure}

theorem fetchOrSkip_ok (calm : source.Calm) (fieldId collectionId itemId : String) :
    (fetchOrSkip source v fieldId collectionId itemId).result ≠ .error cause := by
  intro failed
  obtain ⟨first, fetched, ⟨violation, _⟩ | ⟨_, skipped⟩⟩ := Outcome.orElse_error_iff.mp failed
  · have harmless : first.isViolation = false := by
      unfold fetchReferenced at fetched
      rcases Outcome.bind_error_iff.mp fetched with item | ⟨found, _, rest⟩
      · exact calm.item itemId v first item
      · cases found with
        | none => simp at rest
        | some item =>
          rcases Outcome.bind_error_iff.mp rest with fields | ⟨_, _, none⟩
          · exact calm.fields collectionId v first fields
          · simp at none
    simp [harmless] at violation
  · rcases Outcome.bind_error_iff.mp skipped with warned | ⟨_, _, none⟩
    · simp at warned
    · simp at none

/-- Item values that are given, or those of an item that the source holds. -/
def Held (source : DataSource) (v : Variant) (values held : Values) : Prop :=
  held = values ∨ ∃ id item, (source.item id v).result = .ok (some item) ∧ held = item.values

def Undecodable (held : Values) (cause : Failure) : Prop :=
  ∃ f raw, (target? f).isSome = true ∧ held.lookup f.id = some raw ∧
    decode (some f.type) (some raw) = .error cause

theorem visitFields_error (calm : source.Calm) {follow : Follow} {values : Values}
    {fields : List Field} {path : String} {w : Walk}
    (failed : (fields.foldlM (visitField source v follow values path) w).result = .error cause) :
    Undecodable values cause ∨ ∃ l ∈ links values fields, ∃ item itemFields path' w',
      leads source v l = some (item, itemFields) ∧ (follow item.values itemFields path' w').result =
        .error cause := by
  obtain ⟨f, known, w', atField⟩ := Outcome.foldlM_error failed
  unfold visitField at atField
  split at atField
  · simp at atField
  · rename_i collectionId target
    rcases Outcome.bind_error_iff.mp atField with undecoded | ⟨ids, decoded, following⟩
    · rw [Outcome.result_ofResult] at undecoded
      cases stored : values.lookup f.id with
      | none => simp [stored, decode] at undecoded
      | some raw =>
        rw [stored] at undecoded
        exact .inl ⟨f, raw, by rw [target]; rfl, stored, undecoded⟩
    · obtain ⟨itemId, listed, w'', atItem⟩ := Outcome.foldlM_error following
      simp only [visitItem] at atItem
      split at atItem
      · simp at atItem
      · rcases Outcome.bind_error_iff.mp atItem with unfetched | ⟨found, fetched, below⟩
        · -- A reference that cannot be fetched is skipped with a warning.
          exact absurd unfetched (fetchOrSkip_ok calm f.id collectionId itemId)
        · cases found with
          | none => simp at below
          | some found =>
            have stored : ⟨f, collectionId, itemId⟩ ∈ links values fields :=
              mem_links_iff.mpr ⟨known, target, ids, decoded, listed⟩
            exact .inr ⟨_, stored, found.1, found.2, _, _, leads_of_fetchOrSkip fetched, below⟩

theorem exists_way_start (leads : Leads) {ls : List Link} {l : Link} (stored : l ∈ ls) (n : Nat) :
    ∃ k, Way leads n ls (.start k l) := by
  induction ls generalizing n with
  | nil => simp at stored
  | cons m ls ih =>
    rcases List.mem_cons.mp stored with rfl | later
    · exact ⟨n, .here⟩
    · obtain ⟨k, way⟩ := ih later (n + 1)
      exact ⟨k, .later way⟩

theorem exists_way_under {leads : Leads} {ls : List Link} {l : Link} {x : Visit} {item : Item}
    {fields : List Field} (stored : l ∈ ls) (found : leads l = some (item, fields))
    (inside : Way leads 0 (links item.values fields) x) (n : Nat) :
    ∃ k, Way leads n ls (.under k l x) := by
  induction ls generalizing n with
  | nil => simp at stored
  | cons m ls ih =>
    rcases List.mem_cons.mp stored with rfl | later
    · exact ⟨n, .deeper found inside⟩
    · obtain ⟨k, way⟩ := ih later (n + 1)
      exact ⟨k, .later way⟩

/-- A way of references leads to an item that there is no room to follow. -/
def LeadsTooDeep (leads : Leads) (room : Nat) (values : Values) (fields : List Field) : Prop :=
  ∃ x, Way leads 0 (links values fields) x ∧ x.Unfit leads room

/-- Following references fails only at a value that cannot be read, of the item itself or of one
    that is followed, or where a way of references is too long. -/
theorem followWithin_error (calm : source.Calm) (room : Nat) {values : Values} {fields : List Field}
    {path : String} {w : Walk}
    (failed : (followWithin source v (room + 1) values fields path w).result = .error cause) :
    (∃ held, Held source v values held ∧ Undecodable held cause) ∨
      cause = .tooDeep ∧ LeadsTooDeep (leads source v) room values fields := by
  induction room generalizing values fields path w with
  | zero =>
    rcases visitFields_error calm failed
      with undecodable | ⟨l, stored, item, itemFields, _, _, found, below⟩
    · exact .inl ⟨values, .inl rfl, undecodable⟩
    · obtain ⟨k, way⟩ := exists_way_start (leads source v) stored 0
      refine .inr ⟨?_, _, way, ?_, Nat.zero_le _⟩
      · simpa [followWithin, eq_comm] using below
      · simp [Visit.start, found]
  | succ room ih =>
    rcases visitFields_error calm failed
      with undecodable | ⟨l, stored, item, itemFields, _, _, found, below⟩
    · exact .inl ⟨values, .inl rfl, undecodable⟩
    · rcases ih below with ⟨held, isHeld, undecodable⟩ | ⟨deep, x, inside, somewhere, long⟩
      · refine .inl ⟨held, ?_, undecodable⟩
        rcases isHeld with rfl | other
        · exact .inr ⟨l.itemId, item, (leads_eq_some_iff.mp found).1, rfl⟩
        · exact .inr other
      · obtain ⟨k, way⟩ := exists_way_under stored found inside 0
        exact .inr ⟨deep, _, way, somewhere, Nat.succ_le_succ long⟩

theorem enhance_error (calm : source.Calm) {values : Values} {fields : List Field}
    (failed : (enhance source v values fields).result = .error cause) :
    (∃ held, Held source v values held ∧ Undecodable held cause) ∨
      cause = .tooDeep ∧ LeadsTooDeep (leads source v) depthLimit values fields :=
  followWithin_error calm _ (Outcome.map_error_iff.mp failed)

theorem Undecodable.harmless {held : Values} (undecodable : Undecodable held cause) :
    cause.isViolation = false := by
  obtain ⟨f, raw, _, _, undecoded⟩ := undecodable
  rcases decode_error undecoded with rfl | rfl <;> rfl

end References

namespace Visibility
variable {ctx : Context} {cause : Failure}

def Condition.Undecodable (c : Condition) (ctx : Context) (cause : Failure) : Prop :=
  c.source = .collectionField ∧ ∃ raw, (raw = c.value ∨ raw = c.fieldValue ctx) ∧
    References.decode (some .multiReference) raw ctx.room = .error cause

theorem Condition.eval_error {c : Condition} (failed : c.eval ctx = .error cause) :
    c.Undecodable ctx cause := by
  unfold eval at failed
  split at failed
  · simp at failed
  · rename_i op _
    split at failed
    · simp at failed
    · rename_i source
      refine ⟨source, ?_⟩
      unfold evalField at failed
      split at failed
      · simp only [evalMultiReference, exceptBind_error_iff, exceptPure_error_iff, and_false,
          exists_false, or_false] at failed
        rcases failed with stored | ⟨_, _, own⟩
        · exact ⟨_, .inr rfl, stored⟩
        · exact ⟨_, .inl rfl, own⟩
      -- A single reference and an asset are compared with the condition's own list.
      iterate 5
        · simp only [evalReference, exceptBind_error_iff, exceptPure_error_iff, and_false,
            exists_false, or_false] at failed
          exact ⟨_, .inl rfl, failed⟩
      all_goals simp at failed

theorem anyHolds_error {cs : List Condition} (failed : anyHolds ctx cs = .error cause) :
    ∃ c ∈ cs, c.eval ctx = .error cause := by
  induction cs with
  | nil => simp [anyHolds] at failed
  | cons c cs ih =>
    unfold anyHolds at failed
    rcases exceptBind_error_iff.mp failed with first | ⟨held, _, later⟩
    · exact ⟨c, List.mem_cons_self, first⟩
    · cases held with
      | true => simp [exceptPure_error_iff] at later
      | false =>
        obtain ⟨c', member, fails⟩ := ih (by simpa using later)
        exact ⟨c', List.mem_cons_of_mem _ member, fails⟩

theorem allHold_error {gs : List Group} (failed : allHold ctx gs = .error cause) :
    ∃ g ∈ gs, ∃ c ∈ g.conditions, c.eval ctx = .error cause := by
  induction gs with
  | nil => simp [allHold] at failed
  | cons g gs ih =>
    unfold allHold at failed
    rcases exceptBind_error_iff.mp failed with first | ⟨held, _, later⟩
    · unfold Group.eval at first
      split at first
      · simp at first
      · obtain ⟨c, member, fails⟩ := anyHolds_error first
        exact ⟨g, List.mem_cons_self, c, member, fails⟩
    · cases held with
      | true =>
        obtain ⟨g', member, fails⟩ := ih (by simpa using later)
        exact ⟨g', List.mem_cons_of_mem _ member, fails⟩
      | false => simp [exceptPure_error_iff] at later

theorem Expression.eval_error {x : Expression} (failed : x.eval ctx = .error cause) :
    ∃ g ∈ x.groups, ∃ c ∈ g.conditions, c.Undecodable ctx cause := by
  obtain ⟨g, isGroup, c, isCondition, fails⟩ := allHold_error failed
  exact ⟨g, isGroup, c, isCondition, Condition.eval_error fails⟩

theorem Condition.Undecodable.harmless {c : Condition} (undecodable : c.Undecodable ctx cause) :
    cause.isViolation = false := by
  obtain ⟨_, _, _, undecoded⟩ := undecodable
  rcases References.decode_error undecoded with rfl | rfl <;> rfl

theorem Expression.eval_harmless {x : Expression} (failed : x.eval ctx = .error cause) :
    cause.isViolation = false := by
  obtain ⟨_, _, _, _, undecodable⟩ := Expression.eval_error failed
  exact undecodable.harmless

end Visibility

namespace Resolver
variable {r : Resolver} {cause : Failure}

open Layer

theorem enhance_harmless (calm : r.source.Calm) {values : Values} {fields : List Field}
    (failed : (r.enhance values fields).result = .error cause) : cause.isViolation = false := by
  unfold enhance at failed
  split at failed
  · rcases References.enhance_error calm failed with ⟨held, _, undecodable⟩ | ⟨rfl, _⟩
    · exact undecodable.harmless
    · rfl
  · simp at failed

theorem inject_harmless {values : Values} {l : Layer}
    (failed : Layer.inject values l = .error cause) : cause.isViolation = false := by
  unfold inject fillFitting at failed
  rcases exceptBind_error_iff.mp failed with unfilled | ⟨_, _, unfit⟩
  · obtain ⟨_, _, _, _, _, fails⟩ := fill_error l unfilled
    obtain ⟨_, _, unread⟩ := SlotValue.inject_error fails
    exact unread.harmless
  · split at unfit
    · simp [exceptPure_error_iff] at unfit
    · simp only [throw, throwThe, MonadExceptOf.throw, Except.error.injEq] at unfit
      exact unfit ▸ rfl

theorem allowedIds_harmless {s : CollectionSource} {scope : Option Given}
    (failed : s.allowedIds scope = .error cause) : cause.isViolation = false := by
  rcases exceptBind_error_iff.mp failed with undecoded | ⟨ids, _, rest⟩
  · unfold CollectionSource.allowedGiven at undecoded
    split at undecoded
    · rcases References.decodeGiven_error (exceptMap_error_iff.mp undecoded) with rfl | rfl <;> rfl
    · simp at undecoded
  · cases ids with
    | none => simp [exceptPure_error_iff] at rest
    | some ids =>
      simp only [exceptBind_error_iff, exceptPure_error_iff, and_false, exists_false, or_false]
        at rest
      unfold idTexts at rest
      split at rest
      · simp at rest
      · rw [Except.error.injEq] at rest
        exact rest ▸ rfl

theorem filterItems_error {x : Visibility.Expression} {items : List Item}
    (failed : filterItems r.evaluator x items = .error cause) : ∃ ctx, r.evaluator x ctx =
      .error cause := by
  induction items with
  | nil => simp [filterItems] at failed
  | cons item items ih =>
    simp only [filterItems, exceptBind_error_iff, exceptPure_error_iff, and_false, exists_false,
      or_false] at failed
    rcases failed with first | ⟨_, _, later⟩
    · exact ⟨_, first⟩
    · exact ih later

theorem applyFilters_harmless (standard : r.evaluator = Visibility.Expression.eval)
    {filters : Option Visibility.Expression} {items : List Item}
    (failed : applyFilters r.evaluator filters items = .error cause) :
    cause.isViolation = false := by
  unfold applyFilters at failed
  split at failed
  · simp at failed
  · split at failed
    · simp at failed
    · obtain ⟨ctx, fails⟩ := filterItems_error failed
      rw [standard] at fails
      exact Visibility.Expression.eval_harmless fails

theorem select_harmless (calm : r.source.Calm) (standard : r.evaluator = Visibility.Expression.eval)
    {layerId : String} {s : CollectionSource} {scope : Option Given}
    (failed : (r.select layerId s scope).result = .error cause) : cause.isViolation = false := by
  rcases Outcome.bind_error_iff.mp failed with ids | ⟨_, _, rest⟩
  · exact allowedIds_harmless ids
  · rcases Outcome.bind_error_iff.mp rest with fetching | ⟨⟨page, fields⟩, _, later⟩
    · rcases Outcome.both_error_iff.mp fetching with items | ⟨_, fields⟩
      · exact calm.items _ _ _ cause items
      · exact calm.fields _ _ cause fields
    · rcases Outcome.bind_error_iff.mp later with filtering | ⟨_, _, logging⟩
      · exact applyFilters_harmless standard filtering
      · rcases Outcome.bind_error_iff.mp logging with log | ⟨_, _, none⟩
        · exact FetchWindow.log_error log ▸ rfl
        · simp at none

theorem clone_error (calm : r.source.Calm) {e : Element}
    {inner : Option Given → Outcome (List Layer)} {fields : List Field} {item : Item}
    (failed : (r.clone e inner fields item).result = .error cause) :
    cause.isViolation = false ∨ (inner (some (.ofValues item.values))).result = .error cause := by
  rcases Outcome.bind_error_iff.mp failed with children | ⟨ds, _, rest⟩
  · exact .inr children
  · rcases Outcome.bind_error_iff.mp rest with values | ⟨_, _, injection⟩
    · exact .inl (enhance_harmless calm values)
    · exact .inl (inject_harmless injection)

end Resolver

section visible
open Layer Lineage
variable {evaluator : Visibility.Evaluator} {root : Option Values} {counts : Entries Int}
    {cause : Failure}

theorem Element.isSeen_error {e : Element} {around : Lineage}
    (failed : e.isSeen evaluator (context root counts (e :: around)) = .error cause) :
    ∃ x ∈ expression? (e :: around), evaluator x (context root counts (e :: around)) =
      .error cause := by
  unfold Element.isSeen at failed
  split at failed
  · simp at failed
  · rename_i x binding
    split at failed
    · simp at failed
    · rename_i nonempty
      exact ⟨x, by simpa [expression?, binding] using nonempty, failed⟩

namespace Layer

mutual
theorem visibleIn_error : ∀ (l : Layer) {around : Lineage},
    visibleIn evaluator l (inside root counts around) = .error cause →
      ∃ lineage ∈ lineages around l, ∃ x ∈ expression? lineage,
        evaluator x (context root counts lineage) = .error cause
  | ⟨e, children⟩, around => by
    intro failed
    rw [visibleIn_inside] at failed
    rcases exceptBind_error_iff.mp failed with here | ⟨passed, _, below⟩
    · obtain ⟨x, stated, fails⟩ := Element.isSeen_error here
      exact ⟨e :: around, List.mem_cons_self, x, stated, fails⟩
    · cases passed with
      | false => simp [exceptPure_error_iff] at below
      | true =>
        simp only [↓reduceIte, exceptBind_error_iff, exceptPure_error_iff, and_false, exists_false,
          or_false] at below
        obtain ⟨lineage, member, fails⟩ := visibleForestIn_error children below
        exact ⟨lineage, List.mem_cons_of_mem _ member, fails⟩

theorem visibleForestIn_error : ∀ (ls : List Layer) {around : Lineage},
    visibleForestIn evaluator ls (inside root counts around) = .error cause →
      ∃ lineage ∈ forestLineages around ls, ∃ x ∈ expression? lineage,
        evaluator x (context root counts lineage) = .error cause
  | [], around => by
    intro failed
    simp [visibleForestIn] at failed
  | l :: ls, around => by
    intro failed
    simp only [visibleForestIn, exceptBind_error_iff, exceptPure_error_iff, and_false, exists_false,
      or_false] at failed
    rcases failed with first | ⟨_, _, later⟩
    · obtain ⟨lineage, member, fails⟩ := visibleIn_error l first
      exact ⟨lineage, List.mem_append_left _ member, fails⟩
    · obtain ⟨lineage, member, fails⟩ := visibleForestIn_error ls later
      exact ⟨lineage, List.mem_append_right _ member, fails⟩
end

theorem visibleForest_error {layers : List Layer}
    (failed : visibleForest evaluator counts layers root = .error cause) :
    ∃ lineage ∈ forestLineages [] layers, ∃ x ∈ expression? lineage,
      evaluator x (context root counts lineage) = .error cause := by
  have outermost : visibleForestIn evaluator layers (inside root counts []) = .error cause := failed
  exact visibleForestIn_error layers outermost

end Layer
end visible

namespace Pagination
open Layer
variable {states : Entries Meta} {cause : Failure}

mutual
theorem patchMarked_error : ∀ l : Layer, patchMarked states l = .error cause →
    ∃ n ∈ preorder l, target? states n.toElement = .error cause
  | ⟨e, children⟩ => by
    intro failed
    unfold patchMarked at failed
    rcases exceptBind_error_iff.mp failed with mark | ⟨target, _, below⟩
    · exact ⟨⟨e, children⟩, mem_preorder_iff.mpr (.inl rfl), mark⟩
    · cases target with
      | some m => simp [exceptPure_error_iff] at below
      | none =>
        simp only [exceptBind_error_iff, exceptPure_error_iff, and_false, exists_false, or_false]
          at below
        obtain ⟨n, member, fails⟩ := patchMarkedForest_error children below
        exact ⟨n, mem_preorder_iff.mpr (.inr member), fails⟩

theorem patchMarkedForest_error : ∀ ls : List Layer, patchMarkedForest states ls = .error cause →
    ∃ n ∈ preorderForest ls, target? states n.toElement = .error cause
  | [] => by simp [patchMarkedForest]
  | l :: ls => by
    intro failed
    simp only [patchMarkedForest, exceptBind_error_iff, exceptPure_error_iff, and_false,
      exists_false, or_false] at failed
    rcases failed with first | ⟨_, _, later⟩
    · obtain ⟨n, member, fails⟩ := patchMarked_error l first
      exact ⟨n, mem_preorderForest_cons.mpr (.inl member), fails⟩
    · obtain ⟨n, member, fails⟩ := patchMarkedForest_error ls later
      exact ⟨n, mem_preorderForest_cons.mpr (.inr member), fails⟩
end

/-- A mark that can name no layer: a list or an object that is not empty. -/
def CompositeMark (mark : Json) (cause : Failure) : Prop :=
  (∃ xs, mark = .array xs ∧ xs ≠ [] ∧ cause = .compositeKey true) ∨
    ∃ ms, mark = .object ms ∧ ms ≠ [] ∧ cause = .compositeKey false

theorem CompositeMark.harmless {mark : Json} (composite : CompositeMark mark cause) :
    cause.isViolation = false := by
  rcases composite with ⟨_, _, _, rfl⟩ | ⟨_, _, _, rfl⟩ <;> rfl

theorem target?_error {e : Element} (failed : target? states e = .error cause) :
    ∃ mark, e.attributes.lookup targetAttribute = some mark ∧ CompositeMark mark cause := by
  unfold target? at failed
  split at failed
  · simp at failed
  · rename_i xs marked
    split at failed
    · simp at failed
    · rename_i nonempty
      rw [Except.error.injEq] at failed
      exact ⟨_, marked, .inl ⟨xs, rfl, by simpa using nonempty, failed.symm⟩⟩
  · rename_i ms marked
    split at failed
    · simp at failed
    · rename_i nonempty
      rw [Except.error.injEq] at failed
      exact ⟨_, marked, .inr ⟨ms, rfl, by simpa using nonempty, failed.symm⟩⟩
  · simp at failed

theorem apply_error {layers : List Layer} (failed : apply states layers = .error cause) :
    states ≠ [] ∧ ∃ n ∈ preorderForest layers, ∃ mark, n.attributes.lookup targetAttribute =
      some mark ∧
      CompositeMark mark cause := by
  unfold apply at failed
  split at failed
  · simp at failed
  · rename_i told
    obtain ⟨n, member, fails⟩ := patchMarkedForest_error layers failed
    exact ⟨by simpa using told, n, member, target?_error fails⟩

end Pagination
end PageLayers
