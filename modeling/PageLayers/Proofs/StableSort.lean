import Mathlib.Data.List.Forall2
import Mathlib.Data.Set.Basic
import PageLayers.Collection.Sorting

/-!
What a stable sort makes of a list is told by the list and the comparison. Of the elements in
another order it makes the same up to ties.
-/

namespace PageLayers

theorem filter_mergeSort {α : Type} {le : α → α → Bool} {p : α → Bool} {xs : List α}
    (trans : ∀ a b c, le a b = true → le b c = true → le a c = true)
    (total : ∀ a b, (le a b || le b a) = true)
    (tie : ∀ a b, p a = true → p b = true → le a b = true) :
    (xs.mergeSort le).filter p = xs.filter p := by
  have ordered : (xs.filter p).Pairwise fun a b => le a b = true :=
    List.pairwise_of_forall_mem_list fun a first b second =>
      tie a b (List.mem_filter.mp first).2 (List.mem_filter.mp second).2
  have kept := (List.sublist_mergeSort trans total ordered List.filter_sublist).filter p
  rw [List.filter_filter] at kept
  simp only [Bool.and_self] at kept
  exact (kept.eq_of_length ((List.mergeSort_perm xs le).filter p).length_eq.symm).symm

section comparison
variable {α : Type} {cmp cmp' : α → α → Ordering} {xs ys sorted sorted' : List α} {a b : α}

theorem PreorderOn.of_transCmp [Std.TransCmp cmp] (xs : List α) : PreorderOn cmp xs where
  swap _ _ _ _ := Std.OrientedCmp.eq_swap
  trans _ _ _ _ _ _ := Std.TransCmp.isLE_trans

theorem PreorderOn.congr (order : PreorderOn cmp xs)
    (same : ∀ a ∈ xs, ∀ b ∈ xs, cmp a b = cmp' a b) :
    PreorderOn cmp' xs where
  swap a first b second := by
    rw [← same a first b second, ← same b second a first]
    exact order.swap a first b second
  trans a first b second c third := by
    rw [← same a first b second, ← same b second c third, ← same a first c third]
    exact order.trans a first b second c third

theorem PreorderOn.turned (order : PreorderOn cmp xs) :
    PreorderOn (fun a b => (cmp a b).swap) xs where
  swap a first b second := congrArg Ordering.swap (order.swap a first b second)
  trans a first b second c third less next := by
    rw [← order.swap a first b second] at less
    rw [← order.swap b second c third] at next
    rw [← order.swap a first c third]
    exact order.trans c third b second a first next less

theorem PreorderOn.refl (order : PreorderOn cmp xs) (member : a ∈ xs) : cmp a a = .eq := by
  have turned := order.swap a member a member
  cases placed : cmp a a <;> simp_all

theorem PreorderOn.isLE_refl (order : PreorderOn cmp xs) (member : a ∈ xs) :
    (cmp a a).isLE = true := by
  rw [order.refl member]
  rfl

theorem PreorderOn.antisymm (order : PreorderOn cmp xs) (first : a ∈ xs) (second : b ∈ xs)
    (less : (cmp a b).isLE = true) (more : (cmp b a).isLE = true) : cmp a b = .eq := by
  rw [order.swap a first b second] at more
  cases placed : cmp a b <;> simp_all

theorem isLE_total [Std.OrientedCmp cmp] (a b : α) : ((cmp a b).isLE || (cmp b a).isLE) = true := by
  rw [show cmp b a = (cmp a b).swap from Std.OrientedCmp.eq_swap]
  cases cmp a b <;> rfl

theorem StablySorted.of_transCmp [Std.TransCmp cmp] (xs : List α) :
    StablySorted cmp xs (xs.mergeSort fun a b => (cmp a b).isLE) := by
  have trans : ∀ a b c, (cmp a b).isLE = true → (cmp b c).isLE = true → (cmp a c).isLE = true :=
    fun _ _ _ => Std.TransCmp.isLE_trans
  refine ⟨List.mergeSort_perm _ _, List.pairwise_mergeSort trans isLE_total xs, fun a _ => ?_⟩
  refine filter_mergeSort trans isLE_total fun b c first second => ?_
  have back : cmp b a = .eq := Std.OrientedCmp.eq_comm.mp (of_decide_eq_true first)
  have on : cmp a c = .eq := of_decide_eq_true second
  exact trans b a c (by simp [back]) (by simp [on])

theorem StablySorted.congr (stable : StablySorted cmp xs sorted)
    (same : ∀ a ∈ xs, ∀ b ∈ xs, cmp a b = cmp' a b) : StablySorted cmp' xs sorted := by
  have among : ∀ {a}, a ∈ sorted → a ∈ xs := stable.perm.mem_iff.mp
  refine ⟨stable.perm, stable.ordered.imp_of_mem fun {a b} first second less => ?_,
    fun a member => ?_⟩
  · rwa [← same a (among first) b (among second)]
  · have alike : ∀ b ∈ xs, decide (cmp' a b = .eq) = decide (cmp a b = .eq) :=
      fun b inXs => by rw [same a member b inXs]
    rw [List.filter_congr alike, List.filter_congr fun b inSorted => alike b (among inSorted)]
    exact stable.kept a member

/-- A list that is turned, sorted and turned again is sorted the other way round. -/
theorem StablySorted.reverse (order : PreorderOn cmp xs)
    (stable : StablySorted cmp xs.reverse sorted) :
    StablySorted (fun a b => (cmp a b).swap) xs sorted.reverse := by
  have among : ∀ {a}, a ∈ sorted → a ∈ xs := fun member =>
    List.mem_reverse.mp (stable.perm.mem_iff.mp member)
  refine ⟨(List.reverse_perm sorted).trans (stable.perm.trans (List.reverse_perm xs)), ?_, ?_⟩
  · rw [List.pairwise_reverse]
    refine stable.ordered.imp_of_mem fun {a b} first second less => ?_
    rwa [← order.swap b (among second) a (among first)]
  · intro a member
    have kept := stable.kept a (List.mem_reverse.mpr member)
    have ties : ∀ b, decide ((cmp a b).swap = .eq) = decide (cmp a b = .eq) := fun b => by
      cases cmp a b <;> rfl
    simp only [ties, List.filter_reverse]
    rw [kept, List.filter_reverse, List.reverse_reverse]

/-- Lists of the same elements that are in order, and in which ties come in the same order, are
    equal. -/
theorem eq_of_ordered (order : PreorderOn cmp sorted) (perm : sorted'.Perm sorted)
    (one : sorted.Pairwise fun a b => (cmp a b).isLE = true)
    (other : sorted'.Pairwise fun a b => (cmp a b).isLE = true)
    (ties : ∀ a ∈ sorted, sorted.filter (fun b => cmp a b = .eq) =
      sorted'.filter (fun b => cmp a b = .eq)) :
    sorted = sorted' := by
  induction sorted generalizing sorted' with
  | nil => exact perm.eq_nil.symm
  | cons a sorted ih =>
    cases sorted' with
    | nil => exact absurd perm.length_eq (by simp)
    | cons b sorted' =>
      obtain ⟨above, rest⟩ := List.pairwise_cons.mp one
      obtain ⟨above', rest'⟩ := List.pairwise_cons.mp other
      have first : a ∈ a :: sorted := List.mem_cons_self
      have second : b ∈ a :: sorted := perm.mem_iff.mp List.mem_cons_self
      have tie : cmp a b = .eq := by
        rcases List.mem_cons.mp second with rfl | inSorted
        · exact order.refl first
        · rcases List.mem_cons.mp (perm.mem_iff.mpr first) with rfl | inSorted'
          · exact order.refl first
          · exact order.antisymm first second (above b inSorted) (above' a inSorted')
      have heads := ties a first
      rw [List.filter_cons_of_pos (by simp [order.refl first]),
        List.filter_cons_of_pos (by simp [tie])] at heads
      obtain ⟨rfl, -⟩ := List.cons.inj heads
      have tails : sorted = sorted' := by
        refine ih (order.subset (List.subset_cons_self a sorted)) perm.cons_inv rest rest'
          fun c member => ?_
        have both := ties c (List.mem_cons_of_mem a member)
        rw [List.filter_cons, List.filter_cons] at both
        split at both
        · exact (List.cons.inj both).2
        · exact both
      rw [tails]

theorem StablySorted.unique (order : PreorderOn cmp xs) (one : StablySorted cmp xs sorted)
    (other : StablySorted cmp xs sorted') : sorted = sorted' := by
  have among : sorted ⊆ xs := one.perm.subset
  refine eq_of_ordered (order.subset among) (other.perm.trans one.perm.symm) one.ordered
    other.ordered ?_
  exact fun a member => (one.kept a (among member)).trans (other.kept a (among member)).symm

theorem StablySorted.forall₂_of_perm (order : PreorderOn cmp xs) (perm : ys.Perm xs)
    (one : StablySorted cmp xs sorted) (other : StablySorted cmp ys sorted') :
    List.Forall₂ (fun a b => cmp a b = .eq) sorted sorted' := by
  -- The elements up to each: these sets are ordered by inclusion, so that both lists yield the same
  -- sequence of them.
  let upTo : α → Set α := fun a => {b | b ∈ xs ∧ (cmp b a).isLE = true}
  have rising : ∀ {zs : List α}, zs.Perm xs → zs.Pairwise (fun a b => (cmp a b).isLE = true) →
      (zs.map upTo).Pairwise (· ⊆ ·) := by
    intro zs same ordered
    rw [List.pairwise_map]
    refine ordered.imp_of_mem fun {a b} first second less => ?_
    rintro c ⟨member, below⟩
    exact ⟨member,
      order.trans c member a (same.mem_iff.mp first) b (same.mem_iff.mp second) below less⟩
  have same : sorted.map upTo = sorted'.map upTo :=
    List.Perm.eq_of_pairwise (fun _ _ _ _ => Set.Subset.antisymm) (rising one.perm one.ordered)
      (rising (other.perm.trans perm) other.ordered)
      (((one.perm.trans perm.symm).trans other.perm.symm).map upTo)
  rw [← List.forall₂_eq_eq_eq, List.forall₂_map_left_iff, List.forall₂_map_right_iff,
    List.forall₂_iff_get] at same
  rw [List.forall₂_iff_get]
  refine ⟨same.1, fun i here there => ?_⟩
  have sets := same.2 i here there
  have first : sorted.get ⟨i, here⟩ ∈ xs := one.perm.mem_iff.mp (List.get_mem _ _)
  have second : sorted'.get ⟨i, there⟩ ∈ xs := (other.perm.trans perm).mem_iff.mp (List.get_mem _ _)
  have forth : sorted.get ⟨i, here⟩ ∈ upTo (sorted'.get ⟨i, there⟩) :=
    sets ▸ ⟨first, order.isLE_refl first⟩
  have back : sorted'.get ⟨i, there⟩ ∈ upTo (sorted.get ⟨i, here⟩) :=
    sets ▸ ⟨second, order.isLE_refl second⟩
  exact order.antisymm first second forth.2 back.2

end comparison

end PageLayers
