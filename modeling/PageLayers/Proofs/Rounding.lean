import Mathlib.Algebra.Group.Nat.Defs
import Mathlib.Order.Basic
import PageLayers.Proofs.PageCount

/-!
Rounding to doubles. A double comes back from every quotient that is nearer to it than half a step
of its last place, and a decimal is rounded as the quotient that it stands for, whatever the length
of its digits.
-/

namespace PageLayers

theorem roundHalfEven_eq {num den n : Nat} (below : 2 * (n * den) < 2 * num + den)
    (above : 2 * num < 2 * (n * den) + den) : roundHalfEven num den = n := by
  have positive : 0 < den := by
    rcases Nat.eq_zero_or_pos den with rfl | positive
    · simp at below above
    · exact positive
  have split := Nat.div_add_mod num den
  have remainder := Nat.mod_lt num positive
  rw [Nat.mul_comm] at split
  unfold roundHalfEven
  dsimp only
  generalize num / den = q at split ⊢
  generalize num % den = r at split remainder ⊢
  rcases Nat.lt_trichotomy q n with less | rfl | more
  · obtain ⟨gap, rfl⟩ := Nat.exists_eq_add_of_lt less
    have wide : (q + 1) * den + gap * den = (q + gap + 1) * den := by
      rw [← Nat.add_mul]; congr 1; omega
    rw [Nat.succ_mul] at wide
    rw [if_neg (by omega), if_pos (by omega)]
    rcases Nat.eq_zero_or_pos gap with rfl | larger
    · rfl
    · have step : den ≤ gap * den := Nat.le_mul_of_pos_left den larger
      omega
  · rw [if_pos (by omega)]
  · obtain ⟨gap, rfl⟩ := Nat.exists_eq_add_of_lt more
    have wide : (n + 1) * den + gap * den = (n + gap + 1) * den := by
      rw [← Nat.add_mul]; congr 1; omega
    rw [Nat.succ_mul] at wide
    omega

theorem roundHalfEven_scale (num den : Nat) {c : Nat} (positive : 0 < c) :
    roundHalfEven (num * c) (den * c) = roundHalfEven num den := by
  have less : ∀ a b : Nat, a * c < b * c ↔ a < b := fun a b => Nat.mul_lt_mul_right positive
  unfold roundHalfEven
  dsimp only
  rw [Nat.mul_div_mul_right _ _ positive, Nat.mul_mod_mul_right, ← Nat.mul_assoc]
  simp only [less]

theorem roundHalfEven_eq_or (num den : Nat) : roundHalfEven num den = num / den ∨
    roundHalfEven num den = num / den + 1 := by
  unfold roundHalfEven
  dsimp only
  split_ifs <;> simp

theorem le_roundHalfEven (num den : Nat) : num / den ≤ roundHalfEven num den := by
  rcases roundHalfEven_eq_or num den with same | same <;> omega

theorem ten_pow_pos (k : Nat) : 0 < 10 ^ k := Nat.pow_pos (by decide)

namespace Binary64

/-- Whether a magnitude fits into the 53 bits of a significand and an exponent. -/
def Significant (units : Nat) : Prop := ∃ m k, m < 2 ^ 53 ∧ units = m * 2 ^ k

def IsDouble : Binary64 → Prop
  | finite _ units => Significant units ∧ units < overflowUnits
  | _ => True

theorem Significant.below {units p : Nat} (fits : Significant units) (less : units < 2 ^ (53 + p)) :
    units ≤ (2 ^ 53 - 1) * 2 ^ p := by
  obtain ⟨m, k, bound, rfl⟩ := fits
  rcases Nat.le_total k p with small | large
  · exact Nat.mul_le_mul (by omega) (Nat.pow_le_pow_right (by decide) small)
  · obtain ⟨j, rfl⟩ := Nat.exists_eq_add_of_le' large
    rw [Nat.pow_add, ← Nat.mul_assoc] at less ⊢
    rw [Nat.pow_add] at less
    have quotient : m * 2 ^ j < 2 ^ 53 := Nat.lt_of_mul_lt_mul_right less
    exact Nat.mul_le_mul_right _ (by omega)

theorem Significant.dvd {units p : Nat} (fits : Significant units) (more : 2 ^ (53 + p) ≤ units) :
    2 ^ (p + 1) ∣ units := by
  obtain ⟨m, k, bound, rfl⟩ := fits
  refine Nat.dvd_mul_left_of_dvd (Nat.pow_dvd_pow 2 ?_) m
  by_contra small
  have least : 2 ^ k ≤ 2 ^ p := Nat.pow_le_pow_right (by decide) (by omega)
  have less : m * 2 ^ k < 2 ^ 53 * 2 ^ p :=
    Nat.mul_lt_mul_of_lt_of_le bound least (Nat.two_pow_pos p)
  rw [← Nat.pow_add] at less
  omega

/-- The grid on which a quotient is rounded holds every double that is near to it. -/
theorem roundHalfEven_of_near {s den units : Nat} (positive : 0 < den) (fits : Significant units)
    (below : 2 ^ 54 * (units * den) < 2 ^ 54 * s + units * den)
    (above : 2 ^ 54 * s < 2 ^ 54 * (units * den) + units * den) :
    roundHalfEven s (den * 2 ^ ((s / den).log2 + 1 - 53)) * 2 ^ ((s / den).log2 + 1 - 53) =
      units := by
  by_cases small : s / den < 2 ^ 53
  · have place : (s / den).log2 + 1 - 53 = 0 := by
      rcases Nat.eq_zero_or_pos (s / den) with zero | more
      · simp [zero]
      · have := (Nat.log2_lt (by omega)).mpr small
        omega
    have bound : s < 2 ^ 53 * den := (Nat.div_lt_iff_lt_mul positive).mp small
    have size : units ≤ 2 ^ 53 := by
      by_contra larger
      have product : (2 ^ 53 + 1) * den ≤ units * den := Nat.mul_le_mul_right den (by omega)
      omega
    have product : units * den ≤ 2 ^ 53 * den := Nat.mul_le_mul_right den size
    rw [place, Nat.pow_zero, Nat.mul_one, Nat.mul_one]
    exact roundHalfEven_eq (by omega) (by omega)
  · have nonzero : s / den ≠ 0 := by omega
    obtain ⟨p, log⟩ := Nat.exists_eq_add_of_le ((Nat.le_log2 nonzero).mpr (Nat.not_lt.mp small))
    have least : 2 ^ 53 * 2 ^ p ≤ s / den := by
      rw [← Nat.pow_add, ← log]
      exact Nat.log2_self_le nonzero
    have most : s / den < 2 ^ 54 * 2 ^ p := by
      have less := Nat.lt_log2_self (n := s / den)
      rw [log] at less
      rwa [← Nat.pow_add, show 54 + p = 53 + p + 1 by omega]
    have place : (s / den).log2 + 1 - 53 = p + 1 := by omega
    have step : 2 ^ (p + 1) = 2 * 2 ^ p := by rw [Nat.pow_succ, Nat.mul_comm]
    -- In terms of the half step of the grid, `y` is its multiple by the denominator.
    have low : 2 ^ 53 * (2 ^ p * den) ≤ s := by
      rw [← Nat.mul_assoc]
      exact (Nat.le_div_iff_mul_le positive).mp least
    have high : s < 2 ^ 54 * (2 ^ p * den) := by
      rw [← Nat.mul_assoc]
      exact (Nat.div_lt_iff_lt_mul positive).mp most
    have floor : 2 ^ (53 + p) ≤ units := by
      by_contra less
      have product := Nat.mul_le_mul_right den (fits.below (p := p) (by omega))
      rw [Nat.mul_assoc] at product
      omega
    obtain ⟨n, rfl⟩ := fits.dvd floor
    have multiple : 2 ^ (p + 1) * n * den = n * (2 * (2 ^ p * den)) := by
      rw [step, Nat.mul_comm _ n, Nat.mul_assoc, Nat.mul_assoc]
    rw [multiple] at below above
    have ceiling : n ≤ 2 ^ 53 := by
      by_contra larger
      have product : (2 ^ 53 + 1) * (2 * (2 ^ p * den)) ≤ n * (2 * (2 ^ p * den)) :=
        Nat.mul_le_mul_right _ (by omega)
      omega
    have product : n * (2 * (2 ^ p * den)) ≤ 2 ^ 53 * (2 * (2 ^ p * den)) :=
      Nat.mul_le_mul_right _ ceiling
    have grid : den * 2 ^ (p + 1) = 2 * (2 ^ p * den) := by
      rw [step, Nat.mul_comm den, Nat.mul_assoc]
    rw [place, grid, roundHalfEven_eq (n := n) (by omega) (by omega), Nat.mul_comm]

theorem unitsOfRatio_of_near {num den units : Nat} (positive : 0 < den) (fits : Significant units)
    (below : 2 ^ 54 * (units * den) < 2 ^ 54 * (num * unitsPerOne) + units * den)
    (above : 2 ^ 54 * (num * unitsPerOne) < 2 ^ 54 * (units * den) + units * den) :
    unitsOfRatio num den = units :=
  roundHalfEven_of_near positive fits below above

theorem unitsOfRatio_scale (num den : Nat) {c : Nat} (positive : 0 < c) :
    unitsOfRatio (num * c) (den * c) = unitsOfRatio num den := by
  unfold unitsOfRatio
  dsimp only
  rw [Nat.mul_right_comm num, Nat.mul_div_mul_right _ _ positive, Nat.mul_right_comm den,
    roundHalfEven_scale _ _ positive]

theorem ofRatio_scale (negative : Bool) (num den : Nat) {c : Nat} (positive : 0 < c) :
    ofRatio negative (num * c) (den * c) = ofRatio negative num den := by
  unfold ofRatio
  rw [unitsOfRatio_scale num den positive]

theorem overflowUnits_eq : ∃ m, m = 2098 ∧ overflowUnits = 2 ^ m := by
  refine ⟨2098, rfl, ?_⟩
  unfold overflowUnits
  generalize 2098 = m
  rfl

theorem two_pow_le_unitsOfRatio {num den m : Nat} (large : 2 ^ m * den ≤ num * unitsPerOne)
    (positive : 0 < den) : 2 ^ m ≤ unitsOfRatio num den := by
  unfold unitsOfRatio
  dsimp only
  generalize num * unitsPerOne = s at large ⊢
  have floor : 2 ^ m ≤ s / den := (Nat.le_div_iff_mul_le positive).mpr large
  have nonzero : s / den ≠ 0 := Nat.ne_of_gt (Nat.lt_of_lt_of_le (Nat.two_pow_pos m) floor)
  have log : m ≤ (s / den).log2 := (Nat.le_log2 nonzero).mpr floor
  have least := Nat.log2_self_le nonzero
  generalize (s / den).log2 = l at log least ⊢
  have split : 2 ^ (l - (l + 1 - 53)) * 2 ^ (l + 1 - 53) = 2 ^ l := by
    rw [← Nat.pow_add]; congr 1; omega
  have quotient : 2 ^ (l - (l + 1 - 53)) ≤ s / (den * 2 ^ (l + 1 - 53)) := by
    rw [← Nat.div_div_eq_div_mul, Nat.le_div_iff_mul_le (Nat.two_pow_pos _), split]
    exact least
  calc 2 ^ m
    _ ≤ 2 ^ l := Nat.pow_le_pow_right (by decide) log
    _ = 2 ^ (l - (l + 1 - 53)) * 2 ^ (l + 1 - 53) := split.symm
    _ ≤ s / (den * 2 ^ (l + 1 - 53)) * 2 ^ (l + 1 - 53) := Nat.mul_le_mul_right _ quotient
    _ ≤ roundHalfEven s (den * 2 ^ (l + 1 - 53)) * 2 ^ (l + 1 - 53) :=
      Nat.mul_le_mul_right _ (le_roundHalfEven _ _)

theorem unitsOfRatio_eq_zero {num den : Nat} (tiny : 2 * (num * unitsPerOne) < den) :
    unitsOfRatio num den = 0 := by
  unfold unitsOfRatio
  dsimp only
  generalize num * unitsPerOne = s at tiny ⊢
  have floor : s / den = 0 := Nat.div_eq_of_lt (by omega)
  have coarse : Nat.pow 2 ((s / den).log2 + 1 - 53) = 1 := by simp [floor]
  rw [coarse, Nat.mul_one, Nat.mul_one]
  exact roundHalfEven_eq (by omega) (by omega)

theorem ofDecimal_eq_ofRatio (negative : Bool) {digits : Nat} (positive : 0 < digits)
    (exponent : Int) :
    ofDecimal negative digits exponent =
      ofRatio negative (digits * 10 ^ exponent.toNat) (10 ^ (-exponent).toNat) := by
  obtain ⟨m, isM, unit⟩ := unitsPerOne_eq
  obtain ⟨n, isN, overflow⟩ := overflowUnits_eq
  unfold ofDecimal
  split_ifs with zero huge tiny whole
  · omega
  · have none : (-exponent).toNat = 0 := by omega
    have least :
        overflowUnits ≤ unitsOfRatio (digits * 10 ^ exponent.toNat) (10 ^ (-exponent).toNat) := by
      rw [overflow]
      refine two_pow_le_unitsOfRatio ?_ (ten_pow_pos _)
      rw [none, unit, Nat.pow_zero, Nat.mul_one]
      calc 2 ^ n
        _ ≤ 2 ^ (3 * exponent.toNat + m) := Nat.pow_le_pow_right (by decide) (by omega)
        _ = 8 ^ exponent.toNat * 2 ^ m := by rw [Nat.pow_add, Nat.pow_mul]
        _ ≤ 10 ^ exponent.toNat * 2 ^ m :=
          Nat.mul_le_mul_right _ (Nat.pow_le_pow_left (by decide) _)
        _ ≤ digits * 10 ^ exponent.toNat * 2 ^ m :=
          Nat.mul_le_mul_right _ (Nat.le_mul_of_pos_left _ positive)
    unfold ofRatio
    dsimp only
    rw [if_neg (Nat.not_lt.mpr least)]
  · have none : exponent.toNat = 0 := by omega
    have units : unitsOfRatio (digits * 10 ^ exponent.toNat) (10 ^ (-exponent).toNat) = 0 := by
      refine unitsOfRatio_eq_zero ?_
      rw [none, unit, Nat.pow_zero, Nat.mul_one]
      calc 2 * (digits * 2 ^ m)
        _ < 2 * (2 ^ (digits.log2 + 1) * 2 ^ m) :=
          Nat.mul_lt_mul_of_pos_left
            (Nat.mul_lt_mul_of_pos_right Nat.lt_log2_self (Nat.two_pow_pos m)) (by decide)
        _ = 2 ^ (digits.log2 + 1 + m + 1) := by
          rw [Nat.pow_succ _ (_ + _), Nat.pow_add _ _ m, Nat.mul_comm]
        _ ≤ 2 ^ (3 * (-exponent).toNat) := Nat.pow_le_pow_right (by decide) (by omega)
        _ = 8 ^ (-exponent).toNat := Nat.pow_mul 2 3 _
        _ ≤ 10 ^ (-exponent).toNat := Nat.pow_le_pow_left (by decide) _
    unfold ofRatio
    dsimp only
    rw [units, if_pos (by rw [overflow]; exact Nat.two_pow_pos n)]
  · have none : (-exponent).toNat = 0 := by omega
    rw [none]
    rfl
  · have none : exponent.toNat = 0 := by omega
    rw [none, Nat.pow_zero, Nat.mul_one]
    rfl

theorem ofDecimal_shift (negative : Bool) {digits : Nat} (positive : 0 < digits) (zeros : Nat)
    (exponent : Int) :
    ofDecimal negative (digits * 10 ^ zeros) exponent =
      ofDecimal negative digits (exponent + zeros) := by
  rw [ofDecimal_eq_ofRatio negative (Nat.mul_pos positive (ten_pow_pos zeros)),
    ofDecimal_eq_ofRatio negative positive]
  rcases Int.lt_or_le exponent 0 with below | above
  · rcases Int.lt_or_le (exponent + zeros) 0 with still | past
    · have places : (-exponent).toNat = (-(exponent + zeros)).toNat + zeros := by omega
      have none : exponent.toNat = 0 ∧ (exponent + zeros).toNat = 0 := by omega
      rw [none.1, none.2, places, Nat.pow_add, Nat.pow_zero, Nat.mul_one, Nat.mul_one]
      exact ofRatio_scale _ _ _ (ten_pow_pos zeros)
    · have places : zeros = (exponent + zeros).toNat + (-exponent).toNat := by omega
      have none : exponent.toNat = 0 ∧ (-(exponent + zeros)).toNat = 0 := by omega
      rw [none.1, none.2, Nat.pow_zero, Nat.mul_one]
      calc ofRatio negative (digits * 10 ^ zeros) (10 ^ (-exponent).toNat)
        _ = ofRatio negative (digits * 10 ^ (exponent + zeros).toNat * 10 ^ (-exponent).toNat)
            (1 * 10 ^ (-exponent).toNat) := by
              rw [Nat.mul_assoc, ← Nat.pow_add, ← places, Nat.one_mul]
        _ = ofRatio negative (digits * 10 ^ (exponent + zeros).toNat) 1 :=
          ofRatio_scale _ _ _ (ten_pow_pos _)
  · have places : (exponent + zeros).toNat = zeros + exponent.toNat := by omega
    have none : (-exponent).toNat = 0 ∧ (-(exponent + zeros)).toNat = 0 := by omega
    rw [none.1, none.2, places, Nat.pow_add, Nat.mul_assoc]

end Binary64
end PageLayers
