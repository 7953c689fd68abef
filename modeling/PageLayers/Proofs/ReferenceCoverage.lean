import PageLayers.Layer.Slot
import PageLayers.Proofs.ReferenceBounds
import Mathlib.Data.List.Nodup

/-!
Which references a walk visits. A walk comes to every reference that can be reached unless its way
is cut off: a reference on that way has been visited before, through the same field but on another
way. What lies behind such a reference is gathered under the path of the other way only, even where
no item refers back to itself.
-/

namespace PageLayers.References

def stepsAlong : List Nat → List Link → List Visit
  | n :: place, l :: way => .start n l :: (stepsAlong place way).map (.under n l)
  | _, _ => []

def Visit.steps (x : Visit) : List Visit := stepsAlong x.place x.way

/-- When it is the turn of a reference on the way, its key has been visited already. -/
def CutOff (visited : List String) (trail : List Visit) (x : Visit) : Prop :=
  ∃ p ∈ x.steps, p.key ∈ visited ∨ ∃ y ∈ trail, y.place < p.place ∧ y.key = p.key

section ways
variable {leads : Leads} {path : String} {n : Nat} {l : Link} {ls : List Link} {w w' : Walk}
    {trail : List Visit} {x : Visit}

theorem Visit.steps_start : (Visit.start n l).steps = [Visit.start n l] := rfl

theorem Visit.steps_under : (Visit.under n l x).steps = .start n l ::
    x.steps.map (.under n l) := rfl

theorem Way.steps (way : Way leads n ls x) : ∀ p ∈ x.steps, Way leads n ls p := by
  induction way with
  | here =>
    intro p member
    rw [Visit.steps_start, List.mem_singleton] at member
    subst member
    exact .here
  | deeper found _ ih =>
    intro p member
    rw [Visit.steps_under] at member
    rcases List.mem_cons.mp member with rfl | below
    · exact .here
    · obtain ⟨q, step, rfl⟩ := List.mem_map.mp below
      exact .deeper found (ih q step)
  | later _ ih =>
    intro p member
    exact .later (ih p member)

theorem CutOff.mono {visited visited' : List String} {trail' : List Visit}
    (cut : CutOff visited' trail' x) (kept : ∀ y ∈ trail', y ∈ trail)
    (known : ∀ p ∈ x.steps, p.key ∈ visited' → p.key ∈ visited ∨ ∃ y ∈ trail, y.place < p.place ∧
      y.key = p.key) :
    CutOff visited trail x := by
  obtain ⟨p, step, old | ⟨y, member, earlier, same⟩⟩ := cut
  · exact ⟨p, step, known p step old⟩
  · exact ⟨p, step, Or.inr ⟨y, kept y member, earlier, same⟩⟩

theorem mem_followed {inner : List Visit} (member : x ∈ inner) :
    Visit.under n l x ∈ Visit.start n l :: (inner.map (.under n l) ++ trail) :=
  mem_followed_iff.mpr (Or.inr (Or.inl ⟨x, member, rfl⟩))

theorem CutOff.under {visited : List String} {inner : List Visit} (below : Way leads 0 ls x)
    (cut : CutOff (l.key :: visited) inner x) :
    CutOff visited (Visit.start n l :: (inner.map (.under n l) ++ trail)) (.under n l x) := by
  obtain ⟨p, step, old | ⟨y, member, earlier, same⟩⟩ := cut
  · refine ⟨.under n l p, List.mem_cons_of_mem _ (List.mem_map_of_mem step), ?_⟩
    rcases List.mem_cons.mp old with key | older
    · exact Or.inr ⟨.start n l, List.mem_cons_self, (below.steps p step).start_lt_under, key.symm⟩
    · exact Or.inl older
  · refine ⟨.under n l p, List.mem_cons_of_mem _ (List.mem_map_of_mem step), Or.inr ?_⟩
    exact ⟨.under n l y, mem_followed member, Visit.under_lt_under earlier, same⟩

end ways

section newsroom

end newsroom

end PageLayers.References
