import PageLayers.Proofs.StoredItems
import PageLayers.Session

/-!
What a repository answers, told by the calls that were made on it before. Of the calls that store or
drop a collection in a variant the last one decides whether it is there and what it holds; an item
is taken from the collection that has been there for the longest time without a break.
-/

namespace PageLayers

inductive Call
  | add (id : String) (fields : List Field) (items : List Item) (only : Option Variant)
  | remove (id : String) (only : Option Variant)
  | items (id : String) (v : Variant) (query : ItemQuery)
  | item (id : String) (v : Variant)
  | fields (id : String) (v : Variant)
  deriving DecidableEq, Repr

def Session.ask {α : Type} (reply : DataSource → Reply α) (s : Session) :
    Except Failure α × Session :=
  let (outcome, after) := s.run fun source => .ofReply (reply source)
  (outcome.result, after)

namespace Call

def perform (s : Session) : Call → Session
  | add id known held only => s.add id known held only
  | remove id only => s.remove id only
  | items id v query => (s.ask (·.items id v query)).2
  | item id v => (s.ask (·.item id v)).2
  | fields id v => (s.ask (·.fields id v)).2

def isQuery : Call → Bool
  | add .. | remove .. => false
  | items .. | item .. | fields .. => true

def changes (v : Variant) : Call → Bool
  | add _ _ _ only | remove _ only => only = none || only = some v
  | items .. | item .. | fields .. => false

def names (id : String) : Call → Bool
  | add id' _ _ _ | remove id' _ => id' = id
  | items .. | item .. | fields .. => false

def stores? : Call → Option (List Field × List Item)
  | add _ known held _ => some (known, held)
  | remove .. | items .. | item .. | fields .. => none

def applied (m : Entries Stored) : Call → Entries Stored
  | add id known held _ => m.put id (.ofItems known held)
  | remove id _ => m.without id
  | items .. | item .. | fields .. => m

end Call

def sessionAfter (history : List Call) : Session := history.foldl Call.perform {}

def itemsAfter (history : List Call) (v : Variant) (id : String) (query : ItemQuery) :
    Except Failure ItemPage :=
  ((sessionAfter history).ask (·.items id v query)).1

def itemAfter (history : List Call) (v : Variant) (id : String) : Except Failure (Option Item) :=
  ((sessionAfter history).ask (·.item id v)).1

def fieldsAfter (history : List Call) (v : Variant) (id : String) : Except Failure (List Field) :=
  ((sessionAfter history).ask (·.fields id v)).1

def lastChange (history : List Call) (v : Variant) (id : String) : Option Call :=
  history.reverse.find? fun call => call.changes v && call.names id

/-- The fields and items with which the collection was stored last in the variant, unless it has
    been dropped since. -/
def contents (history : List Call) (v : Variant) (id : String) : Option (List Field × List Item) :=
  (lastChange history v id).bind Call.stores?

def Gone (history : List Call) (v : Variant) (id : String) : Prop :=
  ∀ call, lastChange history v id = some call → ∃ only, call = .remove id only

/-- One item for each id, in the order in which the ids first come; of several items with one id it
    is the last one. -/
def onePerId (items : List Item) : List Item :=
  (items.map (·.id)).eraseDups.filterMap fun id => items.reverse.find? (·.id = id)

structure StablyOrdered (items ordered : List Item) : Prop where
  rising : ordered.Pairwise fun a b => a.manualOrder ≤ b.manualOrder
  stable : ∀ place, ordered.filter (·.manualOrder = place) = items.filter (·.manualOrder = place)

/-- The collection has been in the variant without a break since the call with the given number,
    which stored it where it was not there before. -/
structure LiveSince (history : List Call) (v : Variant) (id : String) (n : Nat) : Prop where
  within : n < history.length
  before : contents (history.take n) v id = none
  after : ∀ m, n < m → m ≤ history.length → (contents (history.take m) v id).isSome

def heldItem? (history : List Call) (v : Variant) (collection id : String) : Option Item :=
  (contents history v collection).bind fun (_, items) => items.reverse.find? (·.id = id)

theorem stablyOrdered_sortManually (items : List Item) :
    StablyOrdered items (sortManually items) := by
  have trans : ∀ a b c : Item, decide (a.manualOrder ≤ b.manualOrder) = true →
    decide (b.manualOrder ≤ c.manualOrder) = true →
      decide (a.manualOrder ≤ c.manualOrder) = true := by
    intro a b c first second
    simp only [decide_eq_true_eq] at *
    omega
  have total : ∀ a b :
      Item, (decide (a.manualOrder ≤ b.manualOrder) || decide (b.manualOrder ≤ a.manualOrder)) =
        true := by
    intro a b
    simp only [Bool.or_eq_true, decide_eq_true_eq]
    omega
  constructor
  · exact (List.pairwise_mergeSort trans total items).imp (by simp)
  · intro place
    -- The items of one place are in order as they are, so sorting keeps them in their order.
    have level : (items.filter (·.manualOrder = place)).Pairwise fun a b =>
        decide (a.manualOrder ≤ b.manualOrder) = true := by
      refine List.pairwise_of_forall_mem_list fun a inA b inB => ?_
      have placeA : a.manualOrder = place := by simpa using (List.mem_filter.mp inA).2
      have placeB : b.manualOrder = place := by simpa using (List.mem_filter.mp inB).2
      simp [placeA, placeB]
    have kept := (List.sublist_mergeSort trans total level List.filter_sublist).filter
      (·.manualOrder = place)
    simp only [List.filter_filter, Bool.and_self] at kept
    have same :=
      ((List.mergeSort_perm items fun a b => decide (a.manualOrder ≤ b.manualOrder)).filter
      (·.manualOrder = place)).length_eq
    exact (kept.eq_of_length same.symm).symm

theorem Stored.lookup_ofItems (fields : List Field) (items : List Item) (id : String) :
    (Stored.ofItems fields items).items.lookup id = items.reverse.find? (·.id = id) := by
  have entry : ∀ items : List Item, (items.map fun i => (i.id, i)).lookup id =
      items.find? (·.id = id) := by
    intro items
    induction items with
    | nil => rfl
    | cons i items ih =>
      by_cases same : id = i.id
      · simp [same]
      · rw [List.map_cons, List.lookup_cons, beq_false_of_ne same,
          List.find?_cons_of_neg (by simpa using Ne.symm same), ih]
  rw [Stored.ofItems, Entries.lookup_ofList, ← List.map_reverse, entry]

theorem Stored.items_ofItems (fields : List Field) (items : List Item) :
    (Stored.ofItems fields items).items.map (·.2) = onePerId items := by
  rw [Entries.values_eq_filterMap (Stored.ofItems_keyed fields items).once]
  simp only [Stored.lookup_ofItems]
  simp only [Stored.ofItems, Entries.keys_ofList, List.map_map, Function.comp_def, onePerId]

section history
variable {history : List Call} {call : Call} {v : Variant} {id : String}

theorem lastChange_concat : lastChange (history ++ [call]) v id =
    if call.changes v && call.names id then some call else lastChange history v id := by
  unfold lastChange
  rw [List.reverse_append, List.reverse_singleton, List.singleton_append, List.find?_cons]
  cases call.changes v && call.names id <;> rfl

theorem contents_concat : contents (history ++ [call]) v id =
    if call.changes v && call.names id then call.stores? else contents history v id := by
  unfold contents
  rw [lastChange_concat]
  split <;> rfl

theorem contents_eq_none_iff : contents history v id = none ↔ Gone history v id := by
  unfold contents Gone
  cases last : lastChange history v id with
  | none => simp
  | some call =>
    have touched := List.find?_some last
    have named : call.names id = true := ((Bool.and_eq_true _ _).mp touched).2
    rw [Option.bind_some]
    constructor
    · rintro nothing _ ⟨rfl⟩
      cases call with
      | remove id' only => exact ⟨only, by simpa [Call.names] using named⟩
      | add => cases nothing
      | items | item | fields => cases named
    · intro removed
      obtain ⟨only, rfl⟩ := removed call rfl
      rfl

theorem LiveSince.concat {n : Nat} (live : LiveSince history v id n)
    (kept : (contents (history ++ [call]) v id).isSome) :
    LiveSince (history ++ [call]) v id n where
  within := by
    rw [List.length_append]
    exact Nat.lt_add_right _ live.within
  before := by
    rw [List.take_append_of_le_length (Nat.le_of_lt live.within)]
    exact live.before
  after := by
    intro m later upTo
    rw [List.length_append, List.length_singleton] at upTo
    by_cases last : m = history.length + 1
    · rw [last, List.take_of_length_le (by simp)]
      exact kept
    · have earlier : m ≤ history.length := by omega
      rw [List.take_append_of_le_length earlier]
      exact live.after m later earlier

theorem LiveSince.new (absent : contents history v id = none)
    (stored : (contents (history ++ [call]) v id).isSome) :
    LiveSince (history ++ [call]) v id history.length where
  within := by simp
  before := by rw [List.take_left]; exact absent
  after := by
    intro m later upTo
    rw [List.take_of_length_le (by simp; omega)]
    exact stored

theorem LiveSince.unique {n n' : Nat} (live : LiveSince history v id n)
    (live' : LiveSince history v id n') : n = n' := by
  rcases Nat.lt_trichotomy n n' with earlier | same | later
  · have there := live.after n' earlier (Nat.le_of_lt live'.within)
    simp [live'.before] at there
  · exact same
  · have there := live'.after n later (Nat.le_of_lt live.within)
    simp [live.before] at there

theorem LiveSince.contents_isSome {n : Nat} (live : LiveSince history v id n) :
    (contents history v id).isSome := by
  have now := live.after history.length live.within (Nat.le_refl _)
  rwa [List.take_length] at now

theorem LiveSince.same_collection {id' : String} {n : Nat} (live : LiveSince history v id n)
    (live' : LiveSince history v id' n) : id = id' := by
  have within := live.within
  have named : ∀ {c : String}, LiveSince history v c n → (history[n]).names c = true := by
    intro c since
    have there := since.after (n + 1) (Nat.lt_succ_self n) within
    rw [List.take_succ_eq_append_getElem within, contents_concat] at there
    by_cases touched : (history[n].changes v && history[n].names c) = true
    · exact ((Bool.and_eq_true _ _).mp touched).2
    · rw [if_neg touched, since.before] at there
      cases there
  have first := named live
  have second := named live'
  revert first second
  cases history[n] <;> simp +contextual [Call.names]

end history

def Older (history : List Call) (v : Variant) (id id' : String) : Prop :=
  ∃ n n', LiveSince history v id n ∧ LiveSince history v id' n' ∧ n < n'

/-- The collections of a variant hold what the history says, those first that have been there the
    longest. -/
structure Reflects (history : List Call) (v : Variant) (m : Entries Stored) : Prop where
  once : (m.map (·.1)).Nodup
  stored : ∀ id, m.lookup id = (contents history v id).map fun (fields, items) =>
    .ofItems fields items
  live : ∀ id ∈ m.map (·.1), ∃ n, LiveSince history v id n
  aging : (m.map (·.1)).Pairwise (Older history v)

namespace Reflects
variable {history : List Call} {call : Call} {v : Variant} {m : Entries Stored}

theorem empty : Reflects [] v [] where
  once := .nil
  stored _ := rfl
  live := by simp
  aging := .nil

theorem kept (reflects : Reflects history v m) {ids : List String}
    (among : ids.Sublist (m.map (·.1)))
    (there : ∀ id ∈ ids, (contents (history ++ [call]) v id).isSome) :
    (∀ id ∈ ids, ∃ n, LiveSince (history ++ [call]) v id n) ∧
    ids.Pairwise (Older (history ++ [call]) v) := by
  constructor
  · intro id member
    obtain ⟨n, since⟩ := reflects.live id (among.subset member)
    exact ⟨n, since.concat (there id member)⟩
  · refine (reflects.aging.sublist among).imp_of_mem ?_
    rintro a b inA inB ⟨n, n', since, since', earlier⟩
    exact ⟨n, n', since.concat (there a inA), since'.concat (there b inB), earlier⟩

theorem mem_keys_iff (reflects : Reflects history v m) {id : String} :
    id ∈ m.map (·.1) ↔ (contents history v id).isSome := by
  constructor
  · intro member
    obtain ⟨n, since⟩ := reflects.live id member
    exact since.contents_isSome
  · intro there
    obtain ⟨content, is⟩ := Option.isSome_iff_exists.mp there
    have found := reflects.stored id
    rw [is, Option.map_some] at found
    exact Repository.mem_keys_of_lookup found

theorem unaffected (reflects : Reflects history v m) (apart : call.changes v = false) :
    Reflects (history ++ [call]) v m := by
  have same : ∀ id, contents (history ++ [call]) v id = contents history v id := by
    intro id
    rw [contents_concat, apart]
    rfl
  have there : ∀ id ∈ m.map (·.1), (contents (history ++ [call]) v id).isSome := by
    intro id member
    rw [same]
    exact reflects.mem_keys_iff.mp member
  obtain ⟨live, aging⟩ := reflects.kept (List.Sublist.refl _) there
  exact ⟨reflects.once, fun id => by rw [same]; exact reflects.stored id, live, aging⟩

theorem add (reflects : Reflects history v m) {id : String} {fields : List Field}
    {items : List Item} {only : Option Variant}
    (reaches : (Call.add id fields items only).changes v = true) :
    Reflects (history ++ [.add id fields items only]) v (m.put id (.ofItems fields items)) := by
  have contents_eq : ∀ id', contents (history ++ [.add id fields items only]) v id' =
      if id' = id then some (fields, items) else contents history v id' := by
    intro id'
    rw [contents_concat, reaches, Bool.true_and]
    simp only [Call.names, Call.stores?, decide_eq_true_eq, @eq_comm _ id' id]
  have there : ∀ id' ∈ m.map (·.1),
      (contents (history ++ [.add id fields items only]) v id').isSome := by
    intro id' member
    rw [contents_eq]
    split
    · rfl
    · exact reflects.mem_keys_iff.mp member
  have stored : ∀ id', (m.put id (.ofItems fields items)).lookup id' =
      (contents (history ++ [.add id fields items only]) v id').map fun (fields, items) =>
        .ofItems fields items := by
    intro id'
    rw [Entries.lookup_put, contents_eq, reflects.stored]
    split <;> rfl
  obtain ⟨live, aging⟩ := reflects.kept (List.Sublist.refl _) there
  by_cases known : id ∈ m.map (·.1)
  · have keys : (m.put id (.ofItems fields items)).map (·.1) = m.map (·.1) := by
      rw [Entries.keys_put, if_pos known]
    exact ⟨Entries.nodup_put reflects.once, stored, keys ▸ live, keys ▸ aging⟩
  · -- The collection was not there, so that all others are older.
    have absent : contents history v id = none := by
      simpa using fun there => known (reflects.mem_keys_iff.mpr there)
    have new : LiveSince (history ++ [.add id fields items only]) v id history.length :=
      .new absent (by simp [contents_eq])
    have keys : (m.put id (.ofItems fields items)).map (·.1) = m.map (·.1) ++ [id] := by
      rw [Entries.keys_put, if_neg known]
    refine ⟨Entries.nodup_put reflects.once, stored, ?_, ?_⟩
    · rw [keys, List.forall_mem_append]
      exact ⟨live, by simpa using ⟨_, new⟩⟩
    · rw [keys, List.pairwise_append]
      refine ⟨aging, List.pairwise_singleton _ _, ?_⟩
      intro id' earlier last isLast
      obtain ⟨n, since⟩ := reflects.live id' earlier
      rw [List.mem_singleton.mp isLast]
      exact ⟨n, _, since.concat (there id' earlier), new, since.within⟩

theorem remove (reflects : Reflects history v m) {id : String} {only : Option Variant}
    (reaches : (Call.remove id only).changes v = true) :
    Reflects (history ++ [.remove id only]) v (m.without id) := by
  have contents_eq : ∀ id', contents (history ++ [.remove id only]) v id' =
      if id' = id then none else contents history v id' := by
    intro id'
    rw [contents_concat, reaches, Bool.true_and]
    simp only [Call.names, Call.stores?, decide_eq_true_eq, @eq_comm _ id' id]
  have fewer : (m.without id).Sublist m := List.filter_sublist
  have there : ∀ id' ∈ (m.without id).map (·.1),
      (contents (history ++ [.remove id only]) v id').isSome := by
    intro id' member
    obtain ⟨entry, kept, rfl⟩ := List.mem_map.mp member
    have apart : entry.1 ≠ id := by simpa using (List.mem_filter.mp kept).2
    rw [contents_eq, if_neg apart]
    exact reflects.mem_keys_iff.mp (List.mem_map_of_mem (fewer.subset kept))
  obtain ⟨live, aging⟩ := reflects.kept (fewer.map _) there
  refine ⟨reflects.once.sublist (fewer.map _), fun id' => ?_, live, aging⟩
  rw [Entries.lookup_without, contents_eq, reflects.stored]
  split <;> rfl

/-- What one call does to the collections of a variant. -/
theorem step (reflects : Reflects history v m) (call : Call) :
    Reflects (history ++ [call]) v (if call.changes v then call.applied m else m) := by
  split
  · rename_i reaches
    cases call with
    | add id fields items only => exact reflects.add reaches
    | remove id only => exact reflects.remove reaches
    | items | item | fields => cases reaches
  · rename_i apart
    exact reflects.unaffected (by simpa using apart)

end Reflects

namespace Session
variable {s : Session} (sound : s.faults = {})
include sound

theorem ask_items (id : String) (v : Variant) (query : ItemQuery) : s.ask (·.items id v query) =
    (s.repository.items id v query, { s with repository := s.repository.afterFetches 1 }) := by
  obtain ⟨repository, faults⟩ := s
  subst sound
  rfl

theorem ask_item (id : String) (v : Variant) : s.ask (·.item id v) =
    (.ok (s.repository.item? id v), { s with repository := s.repository.afterFetches 1 }) := by
  obtain ⟨repository, faults⟩ := s
  subst sound
  rfl

theorem ask_fields (id : String) (v : Variant) : s.ask (·.fields id v) =
    (.ok (s.repository.fields id v), { s with repository := s.repository.afterFetches 1 }) := by
  obtain ⟨repository, faults⟩ := s
  subst sound
  rfl

end Session

namespace Repository

theorem collections_change (r : Repository) (only : Option Variant)
    (f : Entries Stored → Entries Stored) (v : Variant) :
    (r.change only f).collections v = if only = none || only = some v then f (r.collections v)
      else r.collections v := by
  cases v <;> rcases only with _ | _ | _ <;> rfl

end Repository

namespace Call

theorem perform_faults {s : Session} (sound : s.faults = {}) (call : Call) :
    (call.perform s).faults = {} := by
  cases call with
  | add | remove => exact sound
  | items id v query => rw [perform, Session.ask_items sound]; exact sound
  | item id v => rw [perform, Session.ask_item sound]; exact sound
  | fields id v => rw [perform, Session.ask_fields sound]; exact sound

theorem perform_collections {s : Session} (sound : s.faults = {}) (call : Call) (v : Variant) :
    (call.perform s).repository.collections v =
      if call.changes v then call.applied (s.repository.collections v)
        else s.repository.collections v := by
  cases call with
  | add id known held only => exact Repository.collections_change _ only _ v
  | remove id only => exact Repository.collections_change _ only _ v
  | items id v' query => rw [perform, Session.ask_items sound]; rfl
  | item id v' => rw [perform, Session.ask_item sound]; rfl
  | fields id v' => rw [perform, Session.ask_fields sound]; rfl

theorem perform_fetchCount {s : Session} (sound : s.faults = {}) (call : Call) :
    (call.perform s).fetchCount = s.fetchCount + if call.isQuery then 1 else 0 := by
  cases call with
  | add | remove => rfl
  | items id v query => rw [perform, Session.ask_items sound]; rfl
  | item id v => rw [perform, Session.ask_item sound]; rfl
  | fields id v => rw [perform, Session.ask_fields sound]; rfl

end Call

theorem sessionAfter_concat (history : List Call) (call : Call) :
    sessionAfter (history ++ [call]) = call.perform (sessionAfter history) := by
  simp [sessionAfter]

theorem sessionAfter_faults (history : List Call) : (sessionAfter history).faults = {} := by
  induction history using List.reverseRecOn with
  | nil => rfl
  | append_singleton history call ih =>
    rw [sessionAfter_concat]
    exact call.perform_faults ih

theorem sessionAfter_collections (history : List Call) (v : Variant) :
    (sessionAfter history).repository.collections v = (history.filter (·.changes v)).foldl
      Call.applied [] := by
  induction history using List.reverseRecOn with
  | nil => cases v <;> rfl
  | append_singleton history call ih =>
    rw [sessionAfter_concat, call.perform_collections (sessionAfter_faults history), ih,
      List.filter_append]
    cases reaches : call.changes v <;> simp [reaches]

theorem sessionAfter_reflects (history : List Call) (v : Variant) :
    Reflects history v ((sessionAfter history).repository.collections v) := by
  induction history using List.reverseRecOn with
  | nil => cases v <;> exact .empty
  | append_singleton history call ih =>
    rw [sessionAfter_concat, call.perform_collections (sessionAfter_faults history)]
    exact ih.step call

theorem sessionAfter_fetchCount (history : List Call) : (sessionAfter history).fetchCount =
    history.countP Call.isQuery := by
  induction history using List.reverseRecOn with
  | nil => rfl
  | append_singleton history call ih =>
    rw [sessionAfter_concat, call.perform_fetchCount (sessionAfter_faults history), ih,
      List.countP_append]
    cases query : call.isQuery <;> simp [query]

namespace Reflects
variable {history : List Call} {v : Variant} {m : Entries Stored}

theorem heldItem?_eq (reflects : Reflects history v m) (collection id : String) :
    heldItem? history v collection id = (m.lookup collection).bind fun s => s.items.lookup id := by
  unfold heldItem?
  rw [reflects.stored]
  cases contents history v collection with
  | none => rfl
  | some content => simp [Stored.lookup_ofItems]

theorem heldItem?_of_mem (reflects : Reflects history v m) {entry : String × Stored}
    (member : entry ∈ m) (id : String) :
    heldItem? history v entry.1 id = entry.2.items.lookup id := by
  rw [reflects.heldItem?_eq, Entries.lookup_of_mem reflects.once member]
  rfl

theorem mem_of_heldItem? (reflects : Reflects history v m) {collection id : String}
    (held : (heldItem? history v collection id).isSome) : ∃ s, (collection, s) ∈ m := by
  rw [reflects.heldItem?_eq] at held
  cases found : m.lookup collection with
  | none => simp [found] at held
  | some s => exact ⟨s, Repository.mem_of_lookup found⟩

theorem first_item (reflects : Reflects history v m) {id : String} {item : Item}
    (found : (m.findSome? fun (_, s) => s.items.lookup id) = some item) :
    ∃ collection n, LiveSince history v collection n ∧
      heldItem? history v collection id = some item ∧
      ∀ other n', LiveSince history v other n' → (heldItem? history v other id).isSome →
        n ≤ n' := by
  obtain ⟨before, ⟨collection, s⟩, after, rfl, here, earlier⟩ := List.findSome?_eq_some_iff.mp found
  obtain ⟨n, since⟩ := reflects.live collection (by simp)
  have member : (collection, s) ∈ before ++ (collection, s) ::
    after := List.mem_append_right _ List.mem_cons_self
  refine ⟨collection, n, since, (reflects.heldItem?_of_mem member id).trans here, ?_⟩
  intro other n' since' held
  obtain ⟨s', member'⟩ := reflects.mem_of_heldItem? held
  rw [reflects.heldItem?_of_mem member'] at held
  rcases List.mem_append.mp member' with isEarlier | isLater
  · simp [earlier _ isEarlier] at held
  · rcases List.mem_cons.mp isLater with same | later
    · rw [Prod.mk.injEq] at same
      exact Nat.le_of_eq (since.unique (same.1 ▸ since'))
    · have aging := reflects.aging
      rw [List.map_append, List.map_cons, List.pairwise_append, List.pairwise_cons] at aging
      obtain ⟨a, b, sinceA, sinceB, younger⟩ := aging.2.1.1 other (List.mem_map_of_mem later)
      rw [since.unique sinceA, since'.unique sinceB]
      exact Nat.le_of_lt younger

theorem no_item_iff (reflects : Reflects history v m) {id : String} :
    (m.findSome? fun (_, s) => s.items.lookup id) = none ↔
      ∀ collection, heldItem? history v collection id = none := by
  constructor
  · intro nowhere collection
    by_contra held
    obtain ⟨s, member⟩ := reflects.mem_of_heldItem? (Option.isSome_iff_ne_none.mpr held)
    rw [reflects.heldItem?_of_mem member] at held
    exact held (List.findSome?_eq_none_iff.mp nowhere _ member)
  · intro nowhere
    refine List.findSome?_eq_none_iff.mpr fun entry member => ?_
    exact (reflects.heldItem?_of_mem member id).symm.trans (nowhere entry.1)

theorem first_item_iff (reflects : Reflects history v m) {id : String} {item : Item} :
    (m.findSome? fun (_, s) => s.items.lookup id) = some item ↔
      ∃ collection n, LiveSince history v collection n ∧
        heldItem? history v collection id = some item ∧
        ∀ other n', LiveSince history v other n' → (heldItem? history v other id).isSome →
          n ≤ n' := by
  constructor
  · exact reflects.first_item
  · rintro ⟨collection, n, since, held, oldest⟩
    cases found : m.findSome? fun (_, s) => s.items.lookup id with
    | none => simp [reflects.no_item_iff.mp found] at held
    | some item' =>
      -- Collections of one age are one collection.
      obtain ⟨collection', n', since', held', oldest'⟩ := reflects.first_item found
      have sameAge : n = n' :=
        Nat.le_antisymm (oldest _ _ since' (by rw [held']; rfl))
          (oldest' _ _ since (by rw [held]; rfl))
      have sameCollection := (sameAge ▸ since).same_collection since'
      rw [sameCollection, held'] at held
      exact held

end Reflects

/-- After any calls, what a variant answers is told by the calls. The items of a collection are
    refused exactly if it was never stored in the variant or has been dropped last; else they are
    those that were stored last, each id once, in their manual order and restricted to the ids asked
    for, and so are its fields, of which there are none otherwise. An item comes from the collection
    that has been there the longest of those that hold it. Calls that do not change the variant do
    not count for its answers, and every query counts as a fetch. -/
theorem answers_follow_history (history : List Call) (v : Variant) :
    (∀ id query, (itemsAfter history v id query = .error (.unavailable id) ↔ Gone history v id) ∧
      ∀ cause, itemsAfter history v id query = .error cause → cause = .unavailable id) ∧
    (∀ id fields items only, lastChange history v id = some (.add id fields items only) →
      fieldsAfter history v id = .ok fields ∧
      ∃ ordered, StablyOrdered (onePerId items) ordered ∧ ∀ query,
        itemsAfter history v id query =
          .ok ⟨query.window (restrictTo query.itemIds ordered),
            (restrictTo query.itemIds ordered).length⟩ ∧
        (query.limit = none → query.offset = none →
          query.window (restrictTo query.itemIds ordered) = restrictTo query.itemIds ordered)) ∧
    (∀ id, Gone history v id → fieldsAfter history v id = .ok []) ∧
    (∀ id item, itemAfter history v id = .ok (some item) ↔
      ∃ collection n, LiveSince history v collection n ∧
        heldItem? history v collection id = some item ∧
        ∀ other n', LiveSince history v other n' → (heldItem? history v other id).isSome → n ≤ n') ∧
    (∀ id, itemAfter history v id = .ok none ↔
      ∀ collection, heldItem? history v collection id = none) ∧
    (∀ others : List Call, others.filter (·.changes v) = history.filter (·.changes v) →
      (∀ id query, itemsAfter others v id query = itemsAfter history v id query) ∧
      (∀ id, itemAfter others v id = itemAfter history v id) ∧
      ∀ id, fieldsAfter others v id = fieldsAfter history v id) ∧
    (sessionAfter history).fetchCount = history.countP Call.isQuery := by
  have reflects := sessionAfter_reflects history v
  have sound := sessionAfter_faults history
  simp only [itemsAfter, itemAfter, fieldsAfter, Session.ask_items sound, Session.ask_item sound,
    Session.ask_fields sound]
  refine ⟨fun id query => ?_, fun id fields items only last => ?_, fun id gone => ?_, fun id item =>
    ?_, fun id => ?_,
    fun others same => ?_, sessionAfter_fetchCount history⟩
  · rw [← contents_eq_none_iff]
    unfold Repository.items
    rw [reflects.stored]
    cases contents history v id <;> simp [eq_comm]
  · have content : contents history v id = some (fields, items) := by rw [contents, last]; rfl
    have found : ((sessionAfter history).repository.collections v).lookup id =
        some (.ofItems fields items) := by
      rw [reflects.stored, content]
      rfl
    refine ⟨by simp only [Repository.fields, found, Stored.ofItems], sortManually (onePerId items),
      stablyOrdered_sortManually _, fun query => ⟨?_, ?_⟩⟩
    · simp only [Repository.items, found, Stored.page, Stored.select_eq, Stored.items_ofItems]
    · intro unlimited unshifted
      simp [ItemQuery.window, unlimited, unshifted]
  · have found := reflects.stored id
    rw [contents_eq_none_iff.mpr gone] at found
    simp [Repository.fields, found]
  · rw [Except.ok.injEq]
    exact reflects.first_item_iff
  · rw [Except.ok.injEq]
    exact reflects.no_item_iff
  · have collections :
        (sessionAfter others).repository.collections v =
          (sessionAfter history).repository.collections v := by
      rw [sessionAfter_collections, sessionAfter_collections, same]
    have sound' := sessionAfter_faults others
    simp only [Session.ask_items sound', Session.ask_item sound', Session.ask_fields sound']
    simp only [Repository.items, Repository.item?, Repository.fields, collections, implies_true,
      and_self]

def albumCalls : List Call :=
  [.add "a" [] [{ id := "s", collectionId := "a" }] none,
    .add "b" [] [{ id := "s", collectionId := "b" }] none,
    .add "a" [] [{ id := "s", collectionId := "a", manualOrder := 1 }] none]

example : itemAfter albumCalls .draft "s" =
    .ok (some { id := "s", collectionId := "a", manualOrder := 1 }) := by decide

example :
    itemAfter
      (albumCalls ++
        [.remove "a" (some .draft), .add "a" [] [{ id := "s", collectionId := "a" }] none])
          .draft "s" =
    .ok (some { id := "s", collectionId := "b" }) := by decide

end PageLayers
