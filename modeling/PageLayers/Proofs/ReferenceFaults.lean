import PageLayers.Proofs.ReferenceBounds
import PageLayers.Store.Faults

/-!
References that cannot be fetched. A walk over a source whose queries may fail keeps in step with
the walk over the source that has nothing where the other one fails: it fetches the references of
that walk's trail in turn. Each failed fetch on the trail is one warning, and a violation on it ends
the walk.
-/

namespace PageLayers

def Reply.silenced {α : Type} (nothing : α) (r : Reply α) : Reply α :=
  match r.result with
  | .ok _ => r
  | .error _ => ⟨.ok nothing, r.fetches⟩

theorem Reply.silenced_ok_iff {α : Type} {nothing a : α} {r : Reply α} :
    (r.silenced nothing).result = .ok a ↔ r.result = .ok a ∨ (∃ cause, r.result = .error cause) ∧
    a = nothing := by
  unfold silenced
  cases answer : r.result <;> simp [answer, eq_comm]

/-- The source that answers no item where the given one fails to answer for an item, and no fields
    where it fails to answer for fields. -/
def DataSource.silenced (s : DataSource) : DataSource where
  items := s.items
  item id v := (s.item id v).silenced none
  fields id v := (s.fields id v).silenced []
  finite v := by
    obtain ⟨ids, items, fields⟩ := s.finite v
    refine ⟨ids, fun id i answered => ?_, fun c fs answered => ?_⟩
    · rcases Reply.silenced_ok_iff.mp answered with found | ⟨_, nothing⟩
      · exact items id i found
      · simp at nothing
    · rcases Reply.silenced_ok_iff.mp answered with found | ⟨_, rfl⟩
      · exact fields c fs found
      · simp

theorem silenced_item_withFaults (repo : Repository) (faults : Faults) (id : String) (v : Variant) :
    ((repo.source.withFaults faults).silenced.item id v).result =
      .ok (if (faults.item.lookup id).isSome then none else repo.item? id v) := by
  cases faulty : faults.item.lookup id <;>
    simp [DataSource.silenced, DataSource.withFaults, FaultKind.reply, Reply.silenced, faulty,
      Repository.source]

theorem silenced_fields_withFaults (repo : Repository) (faults : Faults) (id : String)
    (v : Variant) :
    ((repo.source.withFaults faults).silenced.fields id v).result =
      .ok (if (faults.fields.lookup id).isSome then [] else repo.fields id v) := by
  cases faulty : faults.fields.lookup id <;>
    simp [DataSource.silenced, DataSource.withFaults, FaultKind.reply, Reply.silenced, faulty,
      Repository.source]

namespace References

/-- The failure that fetching a reference comes upon: that of the query for the item, or where there
    is such an item, that of the query for the fields. -/
def fault? (source : DataSource) (v : Variant) (l : Link) : Option Failure :=
  match (source.item l.itemId v).result with
  | .error cause => some cause
  | .ok none => none
  | .ok (some _) =>
    match (source.fields l.target v).result with
    | .error cause => some cause
    | .ok _ => none

def warning? (source : DataSource) (v : Variant) (x : Visit) : Option Warning :=
  (fault? source v x.link).map (.skippedReference x.link.field.id)

def violation? (source : DataSource) (v : Variant) (x : Visit) : Option Failure :=
  (fault? source v x.link).filter (·.isViolation)

section trail
variable {source : DataSource} {v : Variant}

theorem fetchReferenced_eq (l : Link) : ∃ fetches, fetchReferenced source v l.target l.itemId =
    match fault? source v l with
    | some cause => ⟨.error cause, ⟨fetches, []⟩⟩
    | none => ⟨.ok (leads source v l), ⟨fetches, []⟩⟩ := by
  unfold leads fault? fetchReferenced
  cases answer : (source.item l.itemId v).result with
  | error cause =>
    have asked : (Outcome.ofReply (source.item l.itemId v)).result = .error cause := answer
    rw [Outcome.bind_of_error asked]
    exact ⟨_, rfl⟩
  | ok found =>
    have asked : (Outcome.ofReply (source.item l.itemId v)).result = .ok found := answer
    rw [Outcome.bind_of_ok asked]
    cases found with
    | none => exact ⟨_, rfl⟩
    | some item =>
      cases fields : (source.fields l.target v).result with
      | error cause =>
        have told : (Outcome.ofReply (source.fields l.target v)).result = .error cause := fields
        simp only [Outcome.bind_of_error told]
        exact ⟨_, rfl⟩
      | ok known =>
        have told : (Outcome.ofReply (source.fields l.target v)).result = .ok known := fields
        simp only [Outcome.bind_of_ok told]
        exact ⟨_, rfl⟩

theorem fetchOrSkip_eq (l : Link) : ∃ fetches, fetchOrSkip source v l.field.id l.target l.itemId =
    match fault? source v l with
    | some cause =>
      if cause.isViolation then ⟨.error cause, ⟨fetches, []⟩⟩
      else ⟨.ok none, ⟨fetches, [.skippedReference l.field.id cause]⟩⟩
    | none => ⟨.ok (leads source v l), ⟨fetches, []⟩⟩ := by
  obtain ⟨fetches, told⟩ := @fetchReferenced_eq source v l
  refine ⟨fetches, ?_⟩
  unfold fetchOrSkip
  rw [told]
  cases fault? source v l with
  | none => rfl
  | some cause =>
    cases violation : cause.isViolation with
    | true => simp [Outcome.orElse, violation]
    | false =>
      have added : (⟨fetches, []⟩ : Journal) ++ (⟨0, [.skippedReference l.field.id cause]⟩ ++ {}) =
          ⟨fetches, [.skippedReference l.field.id cause]⟩ := rfl
      simp only [Outcome.orElse, violation, Bool.false_eq_true, ↓reduceIte]
      rw [Outcome.bind_of_ok (Outcome.result_warn _)]
      exact congrArg (Outcome.mk _) added

theorem fetchOrSkip_of_calm {l : Link} (calm : (fault? source v l).filter (·.isViolation) = none) :
    (fetchOrSkip source v l.field.id l.target l.itemId).result = .ok (leads source v l) := by
  obtain ⟨fetches, fetch⟩ := @fetchOrSkip_eq source v l
  have answers : ∃ found, (fetchOrSkip source v l.field.id l.target l.itemId).result =
      .ok found := by
    rw [fetch]
    cases fault : fault? source v l with
    | none => exact ⟨_, rfl⟩
    | some cause =>
      have trouble : cause.isViolation = false := by simpa [fault] using calm
      simp only [trouble, Bool.false_eq_true, ↓reduceIte]
      exact ⟨_, rfl⟩
  obtain ⟨found, answer⟩ := answers
  rw [answer, leads_of_fetchOrSkip answer]

theorem fetchTrail_cons_of_calm {room : Nat} {x : Visit} {trail : List Visit}
    (calm : violation? source v x = none) :
    (fetchTrail source v room (x :: trail)).result =
      if x.Unfit (leads source v) room then .error .tooDeep
        else (fetchTrail source v room trail).result := by
  rw [fetchTrail, Outcome.result_bind, fetchOrSkip_of_calm calm]
  change (if _ then Outcome.fail .tooDeep else _ : Outcome Unit).result = _
  by_cases unfit : (leads source v x.link).isSome = true ∧ room ≤ x.before.length
  · rw [if_pos unfit, if_pos (show x.Unfit _ room from unfit), Outcome.result_fail]
  · rw [if_neg unfit, if_neg (show ¬x.Unfit _ room from unfit)]

theorem fetchTrail_calm {room : Nat} {trail : List Visit}
    (calm : ∀ x ∈ trail, violation? source v x = none) :
    (fetchTrail source v room trail).result =
      if ∀ x ∈ trail, ¬ x.Unfit (leads source v) room then .ok () else .error .tooDeep := by
  induction trail with
  | nil => simp [fetchTrail]
  | cons x trail ih =>
    obtain ⟨here, others⟩ := List.forall_mem_cons.mp calm
    rw [fetchTrail_cons_of_calm here, ih others]
    by_cases unfit : x.Unfit (leads source v) room <;> simp [unfit]

theorem Walks.walk_calm {values : Values} {fields : List Field} {path : String}
    {visited : List String} {w : Walk} {trail : List Visit}
    (walks : Walks (leads source v) path 0 (links values fields) ⟨visited, values⟩ trail w)
    (readable : Readable values fields) (legible : Legible (leads source v) trail)
    (calm : ∀ x ∈ trail, violation? source v x = none) :
    (walk source v values fields path visited).result =
      if Shallow (leads source v) trail then .ok w else .error .tooDeep := by
  rw [walks.walk_eq readable legible, Outcome.result_bind, fetchTrail_calm calm]
  by_cases shallow : Shallow (leads source v) trail
  · rw [if_pos shallow, if_pos (show ∀ x ∈ trail, _ from shallow)]
    rfl
  · rw [if_neg shallow, if_neg (show ¬∀ x ∈ trail, _ from shallow)]
    rfl

theorem fetchTrail_warns {room : Nat} {trail : List Visit}
    (calm : ∀ x ∈ trail, violation? source v x = none)
    (fit : ∀ x ∈ trail, ¬ x.Unfit (leads source v) room) :
    ∃ fetches,
      fetchTrail source v room trail =
        ⟨.ok (), ⟨fetches, trail.filterMap (warning? source v)⟩⟩ := by
  induction trail with
  | nil => exact ⟨0, rfl⟩
  | cons x trail ih =>
    obtain ⟨here, others⟩ := List.forall_mem_cons.mp calm
    obtain ⟨fits, fitting⟩ := List.forall_mem_cons.mp fit
    obtain ⟨further, rest⟩ := ih others fitting
    obtain ⟨fetches, fetch⟩ := @fetchOrSkip_eq source v x.link
    refine ⟨fetches + further, ?_⟩
    rw [fetchTrail, fetch]
    cases fault : fault? source v x.link with
    | none =>
      have goes_on : ¬ ((leads source v x.link).isSome = true ∧ room ≤ x.before.length) := fits
      rw [Outcome.bind_of_ok rfl, if_neg goes_on, rest]
      simp only [List.filterMap_cons, warning?, fault, Option.map_none]
      rfl
    | some cause =>
      have trouble : cause.isViolation = false := by simpa [violation?, fault] using here
      simp only [List.filterMap_cons, warning?, fault, Option.map_some, trouble, Bool.false_eq_true,
        ↓reduceIte]
      rw [Outcome.bind_of_ok rfl, if_neg (by simp), rest]
      rfl

theorem exists_first_cons_iff {α : Type} {P Q : α → Prop} {x : α} {xs : List α} :
    (∃ before y after, x :: xs = before ++ y :: after ∧ (∀ z ∈ before, P z) ∧ Q y) ↔
      Q x ∨ P x ∧ ∃ before y after, xs = before ++ y :: after ∧ (∀ z ∈ before, P z) ∧ Q y := by
  constructor
  · rintro ⟨before, y, after, split, earlier, here⟩
    cases before with
    | nil =>
      obtain ⟨rfl, rfl⟩ := List.cons.inj split
      exact .inl here
    | cons z before =>
      obtain ⟨rfl, rfl⟩ := List.cons.inj split
      obtain ⟨first, others⟩ := List.forall_mem_cons.mp earlier
      exact .inr ⟨first, before, y, after, rfl, others, here⟩
  · rintro (here | ⟨first, before, y, after, rfl, earlier, here⟩)
    · exact ⟨[], x, xs, rfl, by simp, here⟩
    · exact ⟨x :: before, y, after, rfl, List.forall_mem_cons.mpr ⟨first, earlier⟩, here⟩

theorem fetchTrail_violation_iff {room : Nat} {trail : List Visit} :
    (∃ cause, (fetchTrail source v room trail).result = .error cause ∧ cause.isViolation = true) ↔
      ∃ before x after, trail = before ++ x :: after ∧
        (∀ y ∈ before, ¬ y.Unfit (leads source v) room) ∧
          ∃ cause, fault? source v x.link = some cause ∧ cause.isViolation = true := by
  induction trail with
  | nil => simp [fetchTrail]
  | cons x trail ih =>
    rw [exists_first_cons_iff, ← ih]
    by_cases here : ∃ cause, fault? source v x.link = some cause ∧ cause.isViolation = true
    · refine iff_of_true ?_ (.inl here)
      obtain ⟨cause, fault, violation⟩ := here
      obtain ⟨fetches, fetch⟩ := @fetchOrSkip_eq source v x.link
      simp only [fault, violation, ↓reduceIte] at fetch
      refine ⟨cause, ?_, violation⟩
      rw [fetchTrail, Outcome.bind_error_iff, fetch]
      exact .inl rfl
    · have calm : violation? source v x = none := by
        cases fault : fault? source v x.link with
        | none => simp [violation?, fault]
        | some cause =>
          have trouble : cause.isViolation = false := by
            by_contra violation
            exact here ⟨cause, fault, by simpa using violation⟩
          simp [violation?, fault, Option.filter_some, trouble]
      rw [fetchTrail_cons_of_calm calm, or_iff_right here]
      -- Want of room is no violation, and nothing is fetched after it.
      by_cases unfit : x.Unfit (leads source v) room
      · simp [unfit, Failure.isViolation]
      · simp [unfit]

end trail

section silenced
variable {source : DataSource} {v : Variant} {l : Link}

theorem leads_silenced_of_leads {pair : Item × List Field} (found : leads source v l = some pair) :
    leads source.silenced v l = some pair := by
  obtain ⟨item, fields⟩ := pair
  obtain ⟨asked, known⟩ := leads_eq_some_iff.mp found
  exact leads_eq_some_iff.mpr
    ⟨Reply.silenced_ok_iff.mpr (.inl asked), Reply.silenced_ok_iff.mpr (.inl known)⟩

theorem leads_of_leads_silenced {item : Item} {fields : List Field}
    (found : leads source.silenced v l = some (item, fields)) :
    leads source v l = some (item, fields) ∨ leads source v l = none ∧ fields = [] := by
  obtain ⟨asked, known⟩ := leads_eq_some_iff.mp found
  rcases Reply.silenced_ok_iff.mp asked with stored | ⟨_, nothing⟩
  · rcases Reply.silenced_ok_iff.mp known with told | ⟨⟨cause, failed⟩, rfl⟩
    · exact .inl (leads_eq_some_iff.mpr ⟨stored, told⟩)
    · cases there : leads source v l with
      | none => exact .inr ⟨rfl, rfl⟩
      | some pair =>
        have told := (leads_eq_some_iff.mp there).2
        rw [failed] at told
        cases told
  · simp at nothing

theorem fault?_silenced (l : Link) : fault? source.silenced v l = none := by
  have never : ∀ {α : Type} (nothing : α) (r : Reply α), ∃ a, (r.silenced nothing).result =
      .ok a := by
    intro α nothing r
    unfold Reply.silenced
    cases answer : r.result with
    | ok a => exact ⟨a, answer⟩
    | error cause => exact ⟨nothing, rfl⟩
  obtain ⟨found, asked⟩ := never none (source.item l.itemId v)
  obtain ⟨known, told⟩ := never [] (source.fields l.target v)
  unfold fault?
  simp only [DataSource.silenced, asked, told]
  cases found <;> rfl

/-- Over both sources the same references are visited. An item whose fields cannot be fetched has
    none where the failure is silenced, and so nothing to add. -/
theorem Walks.of_silenced {path : String} {n : Nat} {ls : List Link} {w w' : Walk}
    {trail : List Visit} (walks : Walks (leads source.silenced v) path n ls w trail w') :
    Walks (leads source v) path n ls w trail w' := by
  induction walks with
  | done => exact .done
  | seen visited _ ih => exact .seen visited ih
  | @missed _ _ l _ _ _ _ fresh nowhere _ ih =>
    refine .missed fresh ?_ ih
    cases there : leads source v l with
    | none => rfl
    | some pair => simp [leads_silenced_of_leads there] at nowhere
  | followed fresh found inside _ within further =>
    rcases leads_of_leads_silenced found with both | ⟨nowhere, rfl⟩
    · exact .followed fresh both within further
    · obtain ⟨rfl, rfl⟩ := inside.unique .done
      exact .missed fresh nowhere further

theorem Legible.of_silenced {trail : List Visit}
    (legible : Legible (leads source.silenced v) trail) : Legible (leads source v) trail :=
  fun x member item fields found => legible x member item fields (leads_silenced_of_leads found)

theorem Shallow.of_silenced {trail : List Visit}
    (shallow : Shallow (leads source.silenced v) trail) : Shallow (leads source v) trail := by
  rintro x member ⟨somewhere, long⟩
  obtain ⟨pair, found⟩ := Option.isSome_iff_exists.mp somewhere
  exact shallow x member ⟨by rw [leads_silenced_of_leads found]; rfl, long⟩

end silenced

/-- A reference that cannot be fetched counts as one to nothing. Whichever queries for items and for
    fields fail, the walk visits what it visits over the source that has nothing in their place, in
    the same order. If none of the failures that it comes upon is a violation, it comes to the same
    values and the same visited keys, and it gives one warning for each newly visited key whose
    fetch fails, with the cause, and no other. It ends in a violation exactly where it comes to a
    fetch that does. Both walks fail at an item that there is no room for. -/
theorem failed_references_count_as_missing (source : DataSource) (v : Variant) (values : Values)
    (fields : List Field) (path : String) (visited : List String) :
    ∃ w trail, Walks (leads source.silenced v) path 0 (links values fields)
      ⟨visited, values⟩ trail w ∧
      w.visited = (trail.map Visit.key).reverse ++ visited ∧
      (trail.map Visit.key).Nodup ∧ (∀ x ∈ trail, x.key ∉ visited) ∧
      (Shallow (leads source.silenced v) trail → Shallow (leads source v) trail) ∧
      (Readable values fields → Legible (leads source.silenced v) trail →
        ((walk source.silenced v values fields path visited).result =
          if Shallow (leads source.silenced v) trail then .ok w else .error .tooDeep) ∧
        ((∀ x ∈ trail, ∀ cause, fault? source v x.link = some cause → cause.isViolation = false) →
          (walk source v values fields path visited).result =
              (if Shallow (leads source v) trail then .ok w else .error .tooDeep) ∧
            (Shallow (leads source v) trail → ∃ fetches, walk source v values fields path visited =
              ⟨.ok w, ⟨fetches, trail.filterMap (warning? source v)⟩⟩)) ∧
        ((∃ cause, (walk source v values fields path visited).result = .error cause ∧
          cause.isViolation = true) ↔
          ∃ before x after, trail = before ++ x :: after ∧
            (∀ y ∈ before, ¬ y.Unfit (leads source v) depthLimit) ∧
            ∃ cause, fault? source v x.link = some cause ∧ cause.isViolation = true)) := by
  obtain ⟨trail, w, walks⟩ := exists_walks source.silenced v path 0 (links values fields)
    ⟨visited, values⟩
  refine ⟨w, trail, walks, walks.visited_eq, walks.keys_nodup, walks.fresh, Shallow.of_silenced,
    fun readable legible => ⟨?_, ?_, ?_⟩⟩
  · have calm : ∀ x ∈ trail, violation? source.silenced v x = none := by
      simp [violation?, fault?_silenced]
    exact walks.walk_calm readable legible calm
  · intro harmless
    have calm : ∀ x ∈ trail, violation? source v x = none := by
      intro x member
      cases fault : fault? source v x.link with
      | none => simp [violation?, fault]
      | some cause => simp [violation?, fault, Option.filter_some, harmless x member cause fault]
    refine ⟨walks.of_silenced.walk_calm readable legible.of_silenced calm, fun shallow => ?_⟩
    obtain ⟨fetches, fetched⟩ := fetchTrail_warns calm shallow
    refine ⟨fetches, ?_⟩
    rw [walks.of_silenced.walk_eq readable legible.of_silenced, fetched, Outcome.bind_of_ok rfl]
    exact congrArg (Outcome.mk _) (Journal.append_empty _)
  · rw [walks.of_silenced.walk_eq readable legible.of_silenced]
    simp only [Outcome.bind_error_iff, Outcome.result_pure, reduceCtorEq, and_false, exists_false,
      or_false]
    exact fetchTrail_violation_iff

section stored
variable {repo : Repository} {faults : Faults} {v : Variant} {values : Values} {fields : List Field}

theorem fault_withFaults (l : Link) :
    fault? (repo.source.withFaults faults) v l =
      match faults.item.lookup l.itemId with
      | some kind => some (kind.failure l.itemId)
      | none =>
        if (repo.item? l.itemId v).isSome then
          (faults.fields.lookup l.target).map (·.failure l.target)
        else none := by
  cases lost : faults.item.lookup l.itemId with
  | some kind => simp [fault?, DataSource.withFaults, FaultKind.reply, lost]
  | none =>
    cases stored : repo.item? l.itemId v with
    | none => simp [fault?, DataSource.withFaults, FaultKind.reply, lost, Repository.source, stored]
    | some item =>
      cases unknown : faults.fields.lookup l.target <;>
        simp [fault?, DataSource.withFaults, FaultKind.reply, lost, Repository.source, stored,
          unknown]

theorem ReadableThroughout.legible_silenced (sound : ReadableThroughout repo v)
    (trail : List Visit) : Legible (leads (repo.source.withFaults faults).silenced v) trail := by
  intro x _ item fields found
  obtain ⟨asked, told⟩ := leads_eq_some_iff.mp found
  rw [silenced_item_withFaults, Except.ok.injEq] at asked
  rw [silenced_fields_withFaults, Except.ok.injEq] at told
  have stored : repo.item? x.link.itemId v = some item := by
    split at asked
    · simp at asked
    · exact asked
  have there : leads repo.source v x.link = some (item, repo.fields x.link.target v) := by
    simp [leads_source, stored]
  obtain ⟨⟨s, known, held⟩, others⟩ := stored_of_leads there
  split at told
  · subst told
    intro f member
    simp at member
  · rcases others with none | ⟨t, target, same⟩
    · rw [← told, none]
      intro f member
      simp at member
    · rw [← told, same]
      exact sound s known _ held t target

end stored

def lostAuthor : Faults where
  item := [("a2", .breakdown)]

theorem lost_author_counts_as_missing :
    ∃ w fetches,
      (walk (mentors.source.withFaults lostAuthor).silenced .published book bookFields "" []).result
        = .ok w ∧
      walk (mentors.source.withFaults lostAuthor) .published book bookFields "" [] =
        ⟨.ok w, ⟨fetches, [.skippedReference "mentor" (.breakdown "fault"),
          .skippedReference "authors" (.breakdown "fault")]⟩⟩ := by
  have sound : ReadableThroughout mentors .published := by decide
  obtain ⟨w, trail, _, _, _, _, shallower, told⟩ :=
    failed_references_count_as_missing (mentors.source.withFaults lostAuthor) .published book
      bookFields "" []
  obtain ⟨silent, calm, _⟩ := told (by decide +kernel) (sound.legible_silenced trail)
  have ends :
      (walk (mentors.source.withFaults lostAuthor).silenced .published book bookFields ""
        []).result.isOk = true := by
    decide +kernel
  have shallow :
      Shallow (leads (mentors.source.withFaults lostAuthor).silenced .published) trail := by
    by_contra deep
    rw [silent, if_neg deep] at ends
    cases ends
  rw [if_pos shallow] at silent
  obtain ⟨_, warned⟩ := calm fun x _ cause fault => by
    rw [fault_withFaults] at fault
    by_cases lost : x.link.itemId = "a2"
    · simp [lostAuthor, lost] at fault
      rw [← fault]
      rfl
    · simp [lostAuthor, List.lookup_cons, beq_false_of_ne lost] at fault
  obtain ⟨fetches, done⟩ := warned (shallower shallow)
  refine ⟨w, fetches, silent, ?_⟩
  have warnings :
    (walk (mentors.source.withFaults lostAuthor) .published book bookFields "" []).journal.warnings
      =
      [.skippedReference "mentor" (.breakdown "fault"),
        .skippedReference "authors" (.breakdown "fault")] := by
    decide +kernel
  rw [done] at warnings ⊢
  rw [show trail.filterMap _ = _ from warnings]

end References
end PageLayers
