import Mathlib.Data.List.Induction
import Mathlib.Data.List.Nodup
import PageLayers.Entries

/-!
What maps hold: the last value of a key, and each key once, in the order in which they first came.
-/

namespace PageLayers

namespace Entries
variable {α : Type}

theorem ofList_concat (entries : List (String × α)) (key : String) (value : α) :
    ofList (entries ++ [(key, value)]) = put key value (ofList entries) := by
  simp [ofList]

theorem lookup_ofList (key : String) (entries : List (String × α)) :
    (ofList entries).lookup key = entries.reverse.lookup key := by
  induction entries using List.reverseRecOn with
  | nil => rfl
  | append_singleton entries entry ih =>
    obtain ⟨k, v⟩ := entry
    rw [ofList_concat, lookup_put, ih, List.reverse_append, List.reverse_singleton,
      List.singleton_append]
    by_cases same : key = k
    · simp [same]
    · rw [if_neg same, List.lookup_cons, beq_false_of_ne same]

def valueFor? (key : String) (entry : String × α) : Option α := if entry.1 = key then some entry.2
    else none

theorem bind_valueFor?_eq_some_iff {key : String} {value : α} {entry : Option (String × α)} :
    entry.bind (valueFor? key) = some value ↔ entry = some (key, value) := by
  rcases entry with _ | ⟨k, v⟩ <;> simp [valueFor?]

section filterMap
variable {β : Type} {f : β → Option (String × α)} {key : String} {value : α} {xs : List β}

theorem lookup_filterMap : (xs.filterMap f).lookup key = xs.findSome? fun x =>
    (f x).bind (valueFor? key) := by
  induction xs with
  | nil => rfl
  | cons x xs ih =>
    cases here : f x with
    | none => simp [here, ih]
    | some entry =>
      obtain ⟨k, v⟩ := entry
      by_cases same : k = key
      · simp [here, same, valueFor?]
      · simp [here, same, ih, List.lookup_cons, beq_false_of_ne (Ne.symm same), valueFor?]

theorem lookup_ofList_filterMap :
    (ofList (xs.filterMap f)).lookup key = xs.reverse.findSome? fun x =>
      (f x).bind (valueFor? key) := by
  rw [lookup_ofList, ← List.filterMap_reverse, lookup_filterMap]

/-- Of the elements that are entries, the last one of a key gives its value in the map. -/
theorem lookup_ofList_filterMap_eq_some_iff : (ofList (xs.filterMap f)).lookup key = some value ↔
    ∃ before x after, xs = before ++ x :: after ∧ f x = some (key, value) ∧
      ∀ y ∈ after, ∀ other, f y ≠ some (key, other) := by
  rw [lookup_ofList_filterMap, List.findSome?_eq_some_iff]
  simp only [Option.eq_none_iff_forall_ne_some, ne_eq, bind_valueFor?_eq_some_iff]
  constructor
  · rintro ⟨later, x, earlier, split, own, others⟩
    refine ⟨earlier.reverse, x, later.reverse, ?_, own, fun y member =>
      others y (List.mem_reverse.mp member)⟩
    simpa using congrArg List.reverse split
  · rintro ⟨before, x, after, rfl, own, others⟩
    exact ⟨after.reverse, x, before.reverse, by
      simp, own, fun y member => others y (List.mem_reverse.mp member)⟩

theorem isSome_lookup_ofList_filterMap : ((ofList (xs.filterMap f)).lookup key).isSome ↔
    ∃ x ∈ xs, ∃ value, f x = some (key, value) := by
  rw [lookup_ofList_filterMap, List.findSome?_isSome_iff]
  simp only [Option.isSome_iff_exists, bind_valueFor?_eq_some_iff, List.mem_reverse]

end filterMap

theorem mem_put {key : String} {value : α} {m : Entries α} {entry : String × α}
    (member : entry ∈ put key value m) : entry = (key, value) ∨ entry ∈ m := by
  induction m with
  | nil => simpa [put] using member
  | cons first rest ih =>
    obtain ⟨k, v⟩ := first
    by_cases same : k = key
    · simp only [put, same, if_true, List.mem_cons] at member ⊢
      rcases member with new | later
      · exact .inl new
      · exact .inr (.inr later)
    · simp only [put, same, if_false, List.mem_cons] at member ⊢
      rcases member with old | later
      · exact .inr (.inl old)
      · exact (ih later).imp_right .inr

theorem mem_ofList {entries : List (String × α)} {entry : String × α}
    (member : entry ∈ ofList entries) : entry ∈ entries := by
  induction entries using List.reverseRecOn with
  | nil => simp [ofList] at member
  | append_singleton entries last ih =>
    obtain ⟨k, v⟩ := last
    rw [ofList_concat] at member
    rcases mem_put member with rfl | earlier
    · exact List.mem_append_right _ (List.mem_singleton.mpr rfl)
    · exact List.mem_append_left _ (ih earlier)

/-- A key that is given a value keeps its place, or comes last. -/
theorem keys_put (key : String) (value : α) (m : Entries α) :
    (put key value m).map (·.1) = if key ∈ m.map (·.1) then m.map (·.1)
      else m.map (·.1) ++ [key] := by
  induction m with
  | nil => simp [put]
  | cons first rest ih =>
    obtain ⟨k, v⟩ := first
    by_cases same : k = key
    · simp [put, same]
    · rw [put, if_neg same, List.map_cons, ih, List.map_cons]
      by_cases later : key ∈ rest.map (·.1)
      · rw [if_pos later, if_pos (List.mem_cons_of_mem _ later)]
      · have fresh : key ∉ k :: rest.map (·.1) := by
          rw [List.mem_cons]
          rintro (rfl | again)
          · exact same rfl
          · exact later again
        rw [if_neg later, if_neg fresh, List.cons_append]

theorem nodup_put {key : String} {value : α} {m : Entries α} (once : (m.map (·.1)).Nodup) :
    ((put key value m).map (·.1)).Nodup := by
  rw [keys_put]
  split
  · exact once
  · rename_i fresh
    exact List.nodup_append.mpr ⟨once, by simp, fun k member k' last => by
      rw [List.mem_singleton.mp last]
      exact fun same => fresh (same ▸ member)⟩

theorem nodup_ofList (entries : List (String × α)) : ((ofList entries).map (·.1)).Nodup := by
  induction entries using List.reverseRecOn with
  | nil => simp [ofList]
  | append_singleton entries last ih =>
    rw [ofList_concat]
    exact nodup_put ih

theorem keys_ofList (entries : List (String × α)) :
    (ofList entries).map (·.1) = (entries.map (·.1)).eraseDups := by
  induction entries using List.reverseRecOn with
  | nil => rfl
  | append_singleton entries last ih =>
    obtain ⟨k, v⟩ := last
    rw [ofList_concat, keys_put, ih, List.map_append, List.eraseDups_append]
    by_cases again : k ∈ entries.map (·.1)
    · simp [again, List.removeAll]
    · simp [again, List.removeAll, List.eraseDups_cons]

theorem values_eq_filterMap {m : Entries α} (once : (m.map (·.1)).Nodup) :
    m.map (·.2) = (m.map (·.1)).filterMap fun k => m.lookup k := by
  induction m with
  | nil => rfl
  | cons first rest ih =>
    obtain ⟨k, v⟩ := first
    rw [List.map_cons, List.nodup_cons] at once
    obtain ⟨fresh, others⟩ := once
    have later : ∀ k' ∈ rest.map (·.1), ((k, v) :: rest).lookup k' = rest.lookup k' := by
      intro k' member
      have apart : k' ≠ k := fun same => fresh (same ▸ member)
      rw [List.lookup_cons, beq_false_of_ne apart]
    rw [List.map_cons, List.map_cons, List.filterMap_cons_some (b := v) (by simp), ih others,
      List.filterMap_congr later]

theorem lookup_of_mem {m : Entries α} (once : (m.map (·.1)).Nodup) {entry : String × α}
    (member : entry ∈ m) : m.lookup entry.1 = some entry.2 := by
  induction m with
  | nil => simp at member
  | cons first rest ih =>
    obtain ⟨k, v⟩ := first
    rw [List.map_cons, List.nodup_cons] at once
    obtain ⟨fresh, others⟩ := once
    rcases List.mem_cons.mp member with rfl | later
    · simp
    · have known : entry.1 ∈ rest.map (·.1) := List.mem_map_of_mem later
      have apart : entry.1 ≠ k := fun same => fresh (same ▸ known)
      rw [List.lookup_cons, beq_false_of_ne apart]
      exact ih others later

theorem lookup_without (key k : String) (m : Entries α) :
    (m.without key).lookup k = if k = key then none else m.lookup k := by
  induction m with
  | nil => simp [without]
  | cons first rest ih =>
    obtain ⟨k', v⟩ := first
    by_cases dropped : k' = key
    · have shorter : without key ((k', v) :: rest) = without key rest := by simp [without, dropped]
      rw [shorter, ih]
      by_cases same : k = key
      · simp [same]
      · rw [if_neg same, if_neg same, List.lookup_cons, beq_false_of_ne (dropped ▸ same)]
    · have kept : without key ((k', v) :: rest) = (k', v) :: without key rest := by
        simp [without, dropped]
      rw [kept]
      by_cases same : k = k'
      · subst same
        simp [dropped]
      · rw [List.lookup_cons, beq_false_of_ne same, ih, List.lookup_cons, beq_false_of_ne same]

theorem put_of_fresh {key : String} {m : Entries α} (fresh : key ∉ m.map (·.1)) (value : α) :
    put key value m = m ++ [(key, value)] := by
  induction m with
  | nil => rfl
  | cons first rest ih =>
    obtain ⟨k, v⟩ := first
    rw [List.map_cons, List.mem_cons, not_or] at fresh
    rw [put, if_neg (Ne.symm fresh.1), ih fresh.2, List.cons_append]

theorem put_put (key : String) (value later : α) (m : Entries α) : put key later (put key value m) =
    put key later m := by
  induction m with
  | nil => simp [put]
  | cons first rest ih =>
    obtain ⟨k, v⟩ := first
    by_cases same : k = key
    · simp [put, same]
    · simp only [put, if_neg same, ih]

theorem without_put (key : String) (value : α) (m : Entries α) : without key (put key value m) =
    without key m := by
  induction m with
  | nil => simp [put, without]
  | cons first rest ih =>
    obtain ⟨k, v⟩ := first
    by_cases same : k = key
    · simp [put, same, without]
    · rw [put, if_neg same]
      simpa [without, same] using ih

theorem without_put_of_ne {key k : String} (apart : k ≠ key) (value : α) (m : Entries α) :
    without key (put k value m) = put k value (without key m) := by
  induction m with
  | nil => simp [put, without, apart]
  | cons first rest ih =>
    obtain ⟨k', v⟩ := first
    by_cases dropped : k' = key
    · have other : k' ≠ k := fun same => apart (same.symm.trans dropped)
      rw [put, if_neg other]
      simpa [without, dropped] using ih
    · by_cases same : k' = k
      · subst same
        simp [put, without, dropped]
      · rw [put, if_neg same]
        simpa [without, put, dropped, same] using ih

@[simp] theorem without_without (key : String) (m : Entries α) : without key (without key m) =
    without key m := by
  simp [without, List.filter_filter]

theorem ofList_eq_self {m : Entries α} (once : (m.map (·.1)).Nodup) : ofList m = m := by
  induction m using List.reverseRecOn with
  | nil => rfl
  | append_singleton m last ih =>
    obtain ⟨k, v⟩ := last
    rw [List.map_append, List.nodup_append] at once
    have fresh : k ∉ m.map (·.1) := fun member =>
      once.2.2 k member k (List.mem_singleton.mpr rfl) rfl
    rw [ofList_concat, ih once.1, put_of_fresh fresh]

end Entries
end PageLayers
