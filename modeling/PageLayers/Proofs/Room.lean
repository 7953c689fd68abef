import PageLayers.Visibility.Evaluation

/-!
Room for what is read. With more room than needed nothing changes: what an expression comes to on
the values of an item, it comes to wherever there is more room, and the numbers of items play a part
only where it tests them.
-/

namespace PageLayers

/-- The second result, where there is more room, is the first one, unless that one is for want of
    room. -/
def Roomier {ε α : Type} (deep : ε) (x y : Except ε α) : Prop := x = y ∨ x = .error deep

namespace Roomier
variable {ε α β : Type} {deep : ε} {x y : Except ε α}

theorem same (x : Except ε α) : Roomier deep x x := .inl rfl

theorem of_ok {a : α} (roomier : Roomier deep x y) (done : x = .ok a) : y = .ok a := by
  rcases roomier with rfl | narrow
  · exact done
  · rw [narrow] at done
    cases done

theorem bind {f g : α → Except ε β} (first : Roomier deep x y)
    (next : ∀ a, Roomier deep (f a) (g a)) : Roomier deep (x >>= f) (y >>= g) := by
  rcases first with rfl | narrow
  · cases x with
    | error cause => exact same _
    | ok a => exact next a
  · rw [narrow]
    exact .inr rfl

end Roomier

namespace Json

structure ReadsRoomier (fuel : Nat) : Prop where
  value : ∀ {room room' : Nat}, room ≤ room' →
    ∀ cs, Roomier .tooDeep (readValue fuel room cs) (readValue fuel room' cs)
  elements : ∀ {room room' : Nat}, room ≤ room' → ∀ cs,
    Roomier .tooDeep (readElements fuel room cs) (readElements fuel room' cs)
  members : ∀ {room room' : Nat}, room ≤ room' →
    ∀ cs, Roomier .tooDeep (readMembers fuel room cs) (readMembers fuel room' cs)

theorem roomier_opened {α : Type} {room room' : Nat} {x y : Except ReadError α}
    (wider : room ≤ room') (inside : Roomier .tooDeep x y) :
    Roomier .tooDeep (if room = 0 then .error .tooDeep else x)
      (if room' = 0 then .error .tooDeep else y) := by
  by_cases none : room = 0
  · exact .inr (if_pos none)
  · rw [if_neg none, if_neg (by omega)]
    exact inside

theorem readsRoomier (fuel : Nat) : ReadsRoomier fuel := by
  induction fuel with
  | zero => exact ⟨fun _ _ => .same _, fun _ _ => .same _, fun _ _ => .same _⟩
  | succ fuel ih =>
    constructor
    · intro room room' wider cs
      unfold readValue
      split
      · exact .same _
      · refine roomier_opened wider ?_
        split
        · exact .same _
        · exact (ih.elements (Nat.sub_le_sub_right wider 1) _).bind fun _ => .same _
      · refine roomier_opened wider ?_
        split
        · exact .same _
        · exact (ih.members (Nat.sub_le_sub_right wider 1) _).bind fun _ => .same _
      · exact .same _
    · intro room room' wider cs
      unfold readElements
      refine (ih.value wider cs).bind fun (x, rest) => ?_
      dsimp only
      split
      · exact .same _
      · exact (ih.elements wider _).bind fun _ => .same _
      · exact .same _
    · intro room room' wider cs
      unfold readMembers
      split
      · refine (Roomier.same _).bind fun (key, rest) => ?_
        dsimp only
        split
        · refine (ih.value wider _).bind fun (value, rest) => ?_
          dsimp only
          split
          · exact .same _
          · exact (ih.members wider _).bind fun _ => .same _
          · exact .same _
        · exact .same _
      · exact .same _

theorem readWithin_roomier {room room' : Nat} (wider : room ≤ room') (cs : List Char) :
    Roomier .tooDeep (readWithin room cs) (readWithin room' cs) :=
  ((readsRoomier _).value wider _).bind fun _ => .same _

theorem readStored?_roomier {room room' : Nat} (wider : room ≤ room') (cs : List Char) :
    Roomier .tooDeep (readStored? cs room) (readStored? cs room') := by
  unfold readStored?
  rcases readWithin_roomier wider cs with same | narrow
  · exact .inl (by rw [same])
  · exact .inr (by rw [narrow])

end Json

theorem References.decode_roomier {room room' : Nat} (wider : room ≤ room')
    (type : Option FieldType) (raw : Option String) :
    Roomier .tooDeep (decode type raw room) (decode type raw room') := by
  have list : ∀ raw, Roomier .tooDeep (decodeList raw room) (decodeList raw room') := by
    intro raw
    unfold decodeList
    rcases Json.readStored?_roomier wider raw.toList with same | narrow
    · exact .inl (by rw [same])
    · exact .inr (by rw [narrow])
  unfold decode
  split
  · exact .same _
  · split
    · exact .same _
    · split
      · exact .same _
      · exact list _

namespace Visibility

/-- All conditions of the expression test fields of the item in scope. -/
def Expression.TestsFields (x : Expression) : Prop :=
  ∀ g ∈ x.groups, ∀ c ∈ g.conditions, c.source = .collectionField

instance (x : Expression) : Decidable x.TestsFields :=
  inferInstanceAs (Decidable (∀ g ∈ x.groups, ∀ c ∈ g.conditions, c.source = .collectionField))

section fields
variable {values : Option Values} {counts counts' : Entries Int} {room room' : Nat}
    (wider : room ≤ room')
include wider

theorem evalField_roomier (op : Operator) (raw : Option String) (c : Condition) :
    Roomier .tooDeep (evalField room op raw c) (evalField room' op raw c) := by
  have multi :
    Roomier .tooDeep (evalMultiReference room op raw c) (evalMultiReference room' op raw c) :=
    (References.decode_roomier wider _ _).bind fun _ => (References.decode_roomier wider _ _).bind
      fun _ => .same _
  have single : Roomier .tooDeep (evalReference room op raw c) (evalReference room' op raw c) :=
    (References.decode_roomier wider _ _).bind fun _ => .same _
  unfold evalField
  split
  · exact multi
  all_goals first | exact single | exact .same _

theorem Condition.eval_roomier {c : Condition} (field : c.source = .collectionField) :
    Roomier .tooDeep (c.eval ⟨values, counts, room⟩) (c.eval ⟨values, counts', room'⟩) := by
  unfold Condition.eval
  rw [field]
  cases Operator.ofText? c.operator with
  | none => exact .same _
  | some op => exact evalField_roomier wider op _ c

theorem anyHolds_roomier {cs : List Condition} (fields : ∀ c ∈ cs, c.source = .collectionField) :
    Roomier .tooDeep (anyHolds ⟨values, counts, room⟩ cs)
      (anyHolds ⟨values, counts', room'⟩ cs) := by
  induction cs with
  | nil => exact .same _
  | cons c cs ih =>
    obtain ⟨first, others⟩ := List.forall_mem_cons.mp fields
    refine (Condition.eval_roomier wider first).bind fun holds => ?_
    cases holds with
    | true =>
      simp only [↓reduceIte]
      exact .same _
    | false => exact ih others

theorem allHold_roomier {gs : List Group}
    (fields : ∀ g ∈ gs, ∀ c ∈ g.conditions, c.source = .collectionField) :
    Roomier .tooDeep (allHold ⟨values, counts, room⟩ gs) (allHold ⟨values, counts', room'⟩ gs) := by
  induction gs with
  | nil => exact .same _
  | cons g gs ih =>
    obtain ⟨first, others⟩ := List.forall_mem_cons.mp fields
    have group :
        Roomier .tooDeep (g.eval ⟨values, counts, room⟩) (g.eval ⟨values, counts', room'⟩) := by
      unfold Group.eval
      split
      · exact .same _
      · exact anyHolds_roomier wider first
    refine group.bind fun holds => ?_
    cases holds with
    | true => exact ih others
    | false =>
      simp only [Bool.false_eq_true, ↓reduceIte]
      exact .same _

end fields

theorem Expression.eval_of_ok {x : Expression} (fields : x.TestsFields) {values : Option Values}
    {counts : Entries Int} {room : Nat} (narrow : room ≤ Json.depthLimit) {holds : Bool}
    (decided : x.eval ⟨values, counts, room⟩ = .ok holds) :
    x.eval { itemValues := values } = .ok holds :=
  (allHold_roomier narrow fields).of_ok decided

end Visibility
end PageLayers
