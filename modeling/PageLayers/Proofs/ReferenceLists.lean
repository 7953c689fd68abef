import PageLayers.Collection.References
import PageLayers.Proofs.JsonText

/-!
Stored lists of references are read as they were written, whatever characters the ids have, but for
those that are empty.
-/

namespace PageLayers

namespace Number

theorem toString_ne_empty (n : Int) : toString n ≠ "" := by
  have digits : ∀ m : Nat, m.repr ≠ "" := fun m empty =>
    Nat.toDigits_ne_nil (String.ofList_eq_empty_iff.mp empty)
  cases n with
  | ofNat m => exact digits m
  | negSucc m => exact fun empty => absurd (String.append_eq_empty_iff.mp empty).1 (by decide)

theorem Decimal.text_ne_empty (d : Decimal) : d.text ≠ "" := by
  simp only [Decimal.text]
  split_ifs <;> simp [String.append_eq_empty_iff]

theorem magnitudeText_ne_empty (units : Nat) : magnitudeText units ≠ "" := by
  unfold magnitudeText
  split
  · decide
  · exact Decimal.text_ne_empty _

theorem floatText_ne_empty {nan infinity : String} (named : nan ≠ "" ∧ infinity ≠ "")
    (x : Binary64) : floatText nan infinity x ≠ "" := by
  cases x with
  | nan => exact named.1
  | infinite negative => cases negative <;> simp [floatText, named.2]
  | finite negative units => simp [floatText, magnitudeText_ne_empty]

end Number

namespace Json

theorem display_ne_empty {j : Json} (truthy : j.isTruthy = true) : j.display ≠ "" := by
  cases j with
  | null => cases truthy
  | bool b => cases b <;> simp [display, shown]
  | int n => simpa [display, shown] using Number.toString_ne_empty n
  | float x => simpa [display, shown] using Number.floatText_ne_empty (by decide) x
  | text s => simpa [display, isTruthy] using truthy
  | array xs => simp [display, shown]
  | object ms => simp [display, shown]

end Json

namespace References

theorem ofJson_texts (ids : List String) : ofJson (.array (ids.map .text)) =
    ids.filter (· ≠ "") := by
  rw [ofJson, List.filter_map, List.map_map]
  simp [Function.comp_def, Json.isTruthy, Json.display]

theorem empty_not_mem_ofJson (j : Json) : "" ∉ ofJson j := by
  cases j with
  | array xs =>
    intro member
    obtain ⟨x, kept, shown⟩ := List.mem_map.mp member
    exact Json.display_ne_empty (List.mem_filter.mp kept).2 shown
  | _ => simp [ofJson]

theorem encode_ne_empty (ids : List String) : encode ids ≠ "" := by
  simp [encode, Json.render, Json.renderChars]

theorem decodeList_encode (ids : List String) {room : Nat} (opens : room ≠ 0) :
    decodeList (encode ids) room = .ok (ids.filter (· ≠ "")) := by
  have legible : Json.Legible room (.array (ids.map .text)) := by
    obtain ⟨room, rfl⟩ := Nat.exists_eq_succ_of_ne_zero opens
    exact .texts ids
  rw [decodeList, encode, Json.render, String.toList_ofList, Json.readStored?,
    Json.readWithin_renderChars legible]
  exact congrArg Except.ok (ofJson_texts ids)

theorem decode_encode_ids {type : Option FieldType} (multiple : type ≠ some .reference)
    (ids : List String) : decode type (some (encode ids)) = .ok (ids.filter (· ≠ "")) := by
  rw [decode]
  simp only [encode_ne_empty, multiple, if_false]
  exact decodeList_encode ids (by decide)

theorem empty_not_mem_of_decode {type : Option FieldType} (multiple : type ≠ some .reference)
    {raw : Option String} {ids : List String} (read : decode type raw = .ok ids) : "" ∉ ids := by
  unfold decode at read
  split at read
  · simp only [Except.ok.injEq] at read
    simp [← read]
  · rename_i text
    split_ifs at read
    · simp only [Except.ok.injEq] at read
      simp [← read]
    · unfold decodeList at read
      split at read
      · rw [Except.ok.injEq] at read
        exact read ▸ empty_not_mem_ofJson _
      · simp only [Except.ok.injEq] at read
        simp [← read]
      · cases read

theorem ofText?_eq_reference_iff (name : String) :
    FieldType.ofText? name = some .reference ↔ FieldType.normalize name = "reference" := by
  unfold FieldType.ofText?
  constructor
  · intro found
    have named := List.find?_some found
    exact (of_decide_eq_true named).symm
  · intro named
    rw [named]
    decide

/-- Ids come back as they were stored, apart from empty ones; and ids that were read come back in
    full. This holds for every type of field but a single reference, known or not. -/
theorem reference_lists_round_trip (name : Option String)
    (multiple : ∀ n ∈ name, FieldType.normalize n ≠ "reference") :
    (∀ ids, decode (name.bind FieldType.ofText?) (some (encode ids)) = .ok (ids.filter (· ≠ ""))) ∧
    ∀ raw ids, decode (name.bind FieldType.ofText?) raw = .ok ids →
      "" ∉ ids ∧ decode (name.bind FieldType.ofText?) (some (encode ids)) = .ok ids := by
  have list : name.bind FieldType.ofText? ≠ some .reference := by
    intro single
    obtain ⟨n, is, named⟩ := Option.bind_eq_some_iff.mp single
    exact multiple n is ((ofText?_eq_reference_iff n).mp named)
  refine ⟨decode_encode_ids list, fun raw ids read => ?_⟩
  have full := empty_not_mem_of_decode list read
  refine ⟨full, ?_⟩
  rw [decode_encode_ids list, Except.ok.injEq]
  refine List.filter_eq_self.mpr fun id member => ?_
  have named : id ≠ "" := fun empty => full (empty ▸ member)
  simpa using named

theorem song_ids_round_trip :
    FieldType.normalize "Song-List" ≠ "reference" ∧
      decode ((some "Song-List").bind FieldType.ofText?)
        (some (encode ["a\"b", "", "𝄞\n", "a\"b"])) =
        .ok ["a\"b", "𝄞\n", "a\"b"] := by
  have multiple : FieldType.normalize "Song-List" ≠ "reference" := by decide +kernel
  have round := reference_lists_round_trip (some "Song-List") fun n is =>
    Option.mem_some.mp is ▸ multiple
  refine ⟨multiple, (round.1 ["a\"b", "", "𝄞\n", "a\"b"]).trans ?_⟩
  decide

end References
end PageLayers
