import PageLayers.Layer.Basic
import Mathlib.Data.List.Forall2

/-!
The nodes of trees of layers, and lists that are related one by one.
-/

namespace PageLayers

namespace Layer

theorem mem_preorder_iff {n l : Layer} : n ∈ preorder l ↔ n = l ∨
    n ∈ preorderForest l.children := by
  cases l
  rw [preorder, List.mem_cons]

theorem mem_preorderForest_cons {n l : Layer} {ls : List Layer} :
    n ∈ preorderForest (l :: ls) ↔ n ∈ preorder l ∨ n ∈ preorderForest ls := by
  rw [preorderForest, List.mem_append]

theorem mem_preorderForest_iff {n : Layer} {ls : List Layer} :
    n ∈ preorderForest ls ↔ ∃ l ∈ ls, n ∈ preorder l := by
  induction ls with
  | nil => simp [preorderForest]
  | cons l ls ih => simp [mem_preorderForest_cons, ih]

theorem forall_preorder_iff {P : Layer → Prop} {e : Element} {children : List Layer} :
    (∀ n ∈ preorder ⟨e, children⟩, P n) ↔ P ⟨e, children⟩ ∧ ∀ n ∈ preorderForest children, P n := by
  rw [preorder, List.forall_mem_cons]

theorem forall_preorderForest_cons {P : Layer → Prop} {l : Layer} {ls : List Layer} :
    (∀ n ∈ preorderForest (l :: ls), P n) ↔ (∀ n ∈ preorder l, P n) ∧ ∀ n ∈ preorderForest ls,
      P n := by
  rw [preorderForest, List.forall_mem_append]

theorem forall_preorderForest_nil {P : Layer → Prop} : ∀ n ∈ preorderForest [], P n := by
  simp [preorderForest]

end Layer

theorem exists_forall₂ {α β : Type} {R : α → β → Prop} {as : List α} (each : ∀ a ∈ as, ∃ b, R a b) :
    ∃ bs, List.Forall₂ R as bs := by
  induction as with
  | nil => exact ⟨[], .nil⟩
  | cons a as ih =>
    obtain ⟨b, first⟩ := each a (by simp)
    obtain ⟨bs, rest⟩ := ih fun x member => each x (List.mem_cons_of_mem a member)
    exact ⟨b :: bs, .cons first rest⟩

theorem forall₂_mem_right {α β : Type} {R : α → β → Prop} {as : List α} {bs : List β}
    (all : List.Forall₂ R as bs) {b : β} (member : b ∈ bs) : ∃ a ∈ as, R a b := by
  induction all with
  | nil => simp at member
  | cons first _ ih =>
    rcases List.mem_cons.mp member with rfl | later
    · exact ⟨_, by simp, first⟩
    · obtain ⟨a, found, related⟩ := ih later
      exact ⟨a, List.mem_cons_of_mem _ found, related⟩

end PageLayers
