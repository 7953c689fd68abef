import Mathlib.Algebra.Group.Nat.Defs
import Mathlib.Order.Basic
import PageLayers.Proofs.Bindings

/-!
The number of pages is a quotient rounded twice: to a double, and up to a whole number. Rounding to
a double goes to the nearest even significand, so that it never passes a whole number that is a
double.
-/

namespace PageLayers

theorem roundHalfEven_le {num den n : Nat} (positive : 0 < den) (bound : num ≤ n * den) :
    roundHalfEven num den ≤ n := by
  have quotient : num / den ≤ n := Nat.div_le_of_le_mul (by rwa [Nat.mul_comm])
  -- One is added only to a quotient that leaves a remainder, and such a quotient is below the
  -- bound.
  have rounded : 0 < num % den → num / den + 1 ≤ n := by
    intro remainder
    have split := Nat.div_add_mod num den
    by_contra more
    have same : num / den = n := by omega
    rw [same, Nat.mul_comm] at split
    omega
  unfold roundHalfEven
  dsimp only
  split_ifs with below above even
  · exact quotient
  · exact rounded (by omega)
  · exact quotient
  · exact rounded (by omega)

namespace Binary64

theorem unitsPerOne_eq : ∃ m, m = 1074 ∧ unitsPerOne = 2 ^ m := by
  refine ⟨1074, rfl, ?_⟩
  unfold unitsPerOne
  generalize 1074 = m
  rfl

theorem unitsPerOne_pos : 0 < unitsPerOne := by
  obtain ⟨m, -, power⟩ := unitsPerOne_eq
  rw [power]
  exact Nat.two_pow_pos m

theorem unitsOfRatio_le {num den n : Nat} (positive : 0 < den) (bound : num ≤ n * den)
    (fits : n < 2 ^ 53) : unitsOfRatio num den ≤ n * unitsPerOne := by
  obtain ⟨m, exponent, power⟩ := unitsPerOne_eq
  have scaled : num * unitsPerOne ≤ n * unitsPerOne * den := by
    calc num * unitsPerOne
      _ ≤ n * den * unitsPerOne := Nat.mul_le_mul_right _ bound
      _ = n * unitsPerOne * den := Nat.mul_right_comm n den unitsPerOne
  have quotient : num * unitsPerOne / den ≤ n * unitsPerOne :=
    Nat.div_le_of_le_mul (by rwa [Nat.mul_comm den])
  unfold unitsOfRatio
  dsimp only
  generalize place : (num * unitsPerOne / den).log2 + 1 - 53 = e
  -- The last place of the significand is no coarser than one, so that whole numbers lie on the
  -- grid.
  have places : e ≤ m := by
    by_cases zero : num * unitsPerOne / den = 0
    · rw [zero, Nat.log2_zero] at place
      omega
    · have small : num * unitsPerOne / den < 2 ^ (53 + m) := by
        rw [Nat.pow_add, ← power]
        exact Nat.lt_of_le_of_lt quotient (Nat.mul_lt_mul_of_pos_right fits unitsPerOne_pos)
      have log := (Nat.log2_lt zero).mpr small
      omega
  have grid : n * unitsPerOne = n * 2 ^ (m - e) * Nat.pow 2 e := by
    rw [Nat.pow_eq, Nat.mul_assoc, ← Nat.pow_add, Nat.sub_add_cancel places, power]
  rw [grid] at scaled ⊢
  have aligned : num * unitsPerOne ≤ n * 2 ^ (m - e) * (den * Nat.pow 2 e) := by
    rw [Nat.mul_comm den, ← Nat.mul_assoc]
    exact scaled
  exact Nat.mul_le_mul_right _ (roundHalfEven_le (Nat.mul_pos positive (Nat.two_pow_pos e)) aligned)

theorem ceilUnits_le {units n : Nat} (bound : units ≤ n * unitsPerOne) : ceilUnits units ≤ n := by
  unfold ceilUnits
  have positive := unitsPerOne_pos
  refine Nat.le_of_lt_succ ((Nat.div_lt_iff_lt_mul positive).mpr ?_)
  rw [Nat.succ_mul]
  omega

end Binary64

namespace Pagination

/-- Pages that hold all items are enough, unless there are more of them than a significand can
    count. -/
theorem pageCount_le {total size n : Nat} (positive : 0 < size) (enough : total ≤ n * size)
    (fits : n < 2 ^ 53) : pageCount total size ≤ n :=
  Binary64.ceilUnits_le (Binary64.unitsOfRatio_le positive enough fits)

theorem page_starts_before_end {total size p : Nat} (positive : 0 < size) (few : total < 2 ^ 53)
    (first : 1 ≤ p) (counted : p ≤ pageCount total size) : (p - 1) * size < total := by
  by_contra past
  have enough : total ≤ min (p - 1) total * size := by
    rcases Nat.le_total (p - 1) total with before | after
    · rw [Nat.min_eq_left before]
      omega
    · rw [Nat.min_eq_right after]
      exact Nat.le_mul_of_pos_right total positive
  have bounded := pageCount_le positive enough (by omega)
  omega

/-- Pages that can be counted by a double are no more than there are doubles for. -/
theorem natAbs_signedPageCount_le {total : Int} {size : Nat}
    (finite : Binary64.isFiniteRatio total.natAbs size = true) :
    (signedPageCount total size).natAbs ≤ 2 ^ 1024 := by
  have units : Binary64.unitsOfRatio total.natAbs size ≤ 2 ^ 1024 * Binary64.unitsPerOne := by
    have all : Binary64.overflowUnits = 2 ^ 1024 * Binary64.unitsPerOne := by decide +kernel
    rw [← all]
    exact Nat.le_of_lt (of_decide_eq_true finite)
  unfold signedPageCount
  split
  · rw [Int.natAbs_neg, Int.natAbs_natCast]
    exact Nat.div_le_of_le_mul (by rwa [Nat.mul_comm])
  · rw [Int.natAbs_natCast]
    exact Binary64.ceilUnits_le units

-- With more items, rounding to an even significand may count a page more than there are.
example : pageCount (2 ^ 53 + 3) 1 = 2 ^ 53 + 4 := by decide +kernel

end Pagination

/-- The state of a page that a resolution records can be written on its controls. -/
theorem Resolver.recorded_page_is_writable {r : Resolver} {e : Element} {s : CollectionSource}
    {inner : Option Given → Outcome (List Layer)} {scope : Option Given} {d : Layer}
    {told : Pagination.Meta} (expanded : (r.expandBinding e s inner scope).result = .ok d)
    (recorded : d.pagination = some told) :
    Number.isWritable told.currentPage = true ∧ Number.isWritable told.totalPages = true := by
  obtain ⟨selection, _, selected, _, countable, rfl⟩ := expandBinding_ok_iff.mp expanded
  obtain ⟨_, page, _, _, _, _, _, loggable, window, total, _⟩ := select_ok_iff.mp selected
  rw [← window, ← total] at loggable
  obtain ⟨perPage, paged, rfl⟩ := Option.map_eq_some_iff.mp
    (show selection.window.pageMeta e.id s.id selection.total = some told from recorded)
  constructor
  · simp only [FetchWindow.isLoggable, Bool.and_eq_true] at loggable
    exact loggable.1.1.2
  · rw [FetchWindow.isCountable, paged, Option.all_some] at countable
    have most : 2 ^ 1024 < Nat.pow 10 Number.maxIntegerDigits := by decide +kernel
    exact Number.isWritable_iff.mpr
      (Nat.lt_of_le_of_lt (Pagination.natAbs_signedPageCount_le countable) most)

end PageLayers
