import PageLayers.Number.Shortest
import PageLayers.Proofs.Rounding

/-!
The shortest decimal of a double reads back as the double. It is only ever taken from decimals that
do, so that what is left to show is that there is one: of two neighbours with seventeen digits the
nearer one is nearer to the double than half a step of its last place.
-/

namespace PageLayers.Number
open Binary64

theorem ofDecimal_sign {digits : Nat} {exponent : Int} {units : Nat} (positive : 0 < digits)
    (reads : ofDecimal false digits exponent = .finite false units) (negative : Bool) :
    ofDecimal negative digits exponent = .finite negative units := by
  rw [ofDecimal_eq_ofRatio _ positive] at reads ⊢
  unfold ofRatio at reads ⊢
  dsimp only at reads ⊢
  split_ifs at reads ⊢ with inside
  rw [Binary64.finite.injEq] at reads
  rw [reads.2]

theorem readsBack_iff {units : Nat} {d : Decimal} :
    readsBack units d = true ↔ ofDecimal false d.digits d.exponent = .finite false units := by
  rw [readsBack, beq_iff_eq]

/-- Of the two neighbours of a quotient on a grid the one that reads back, and the nearer one if
    both do. -/
def neighbour? (units : Nat) (exponent : Int) (num den : Nat) : Option Decimal :=
  match readsBack units ⟨num / den, exponent⟩, readsBack units ⟨num / den + 1, exponent⟩ with
  | true, false => some ⟨num / den, exponent⟩
  | false, true => some ⟨num / den + 1, exponent⟩
  | false, false => none
  | true, true => some ⟨roundHalfEven num den, exponent⟩

theorem decimalOfLength_eq {units count : Nat} {exponent : Int}
    (place : leadingExponent units - count + 1 = exponent) :
    decimalOfLength? units count =
      neighbour? units exponent (units * Nat.pow 10 (-exponent).toNat)
        (unitsPerOne * Nat.pow 10 exponent.toNat) :=
  place ▸ rfl

section neighbour
variable {units num den : Nat} {exponent : Int}

theorem readsBack_of_neighbour {d : Decimal} (found : neighbour? units exponent num den = some d) :
    readsBack units d = true := by
  unfold neighbour? at found
  split at found
  · rename_i reads _
    cases found
    exact reads
  · rename_i _ reads
    cases found
    exact reads
  · cases found
  · rename_i lower upper
    cases found
    rcases roundHalfEven_eq_or num den with same | same
    · rw [same]
      exact lower
    · rw [same]
      exact upper

theorem neighbour_isSome {n : Nat} (neighbour : n = num / den ∨ n = num / den + 1)
    (reads : readsBack units ⟨n, exponent⟩ = true) :
    (neighbour? units exponent num den).isSome = true := by
  unfold neighbour?
  rcases neighbour with rfl | rfl
  · rw [reads]
    cases readsBack units ⟨num / den + 1, exponent⟩ <;> rfl
  · rw [reads]
    cases readsBack units ⟨num / den, exponent⟩ <;> rfl

end neighbour

theorem exists_leadingExponent {units : Nat} (positive : 0 < units) :
    ∃ count scale : Nat, scale = 400 ∧ leadingExponent units = (count : Int) - scale ∧
      10 ^ count * unitsPerOne ≤ units * 10 ^ scale := by
  obtain ⟨scale, is, whole⟩ : ∃ scale : Nat, scale = 400 ∧ leadingExponent units =
      ((Nat.toDigits 10 (units * 10 ^ scale / unitsPerOne)).length : Int) - 401 := by
    refine ⟨400, rfl, ?_⟩
    unfold leadingExponent
    generalize 400 = scale
    rfl
  have unit := unitsPerOne_pos
  have large : unitsPerOne ≤ units * 10 ^ scale := by
    obtain ⟨m, isM, power⟩ := unitsPerOne_eq
    rw [power]
    calc 2 ^ m
      _ ≤ 2 ^ (3 * scale) := Nat.pow_le_pow_right (by decide) (by omega)
      _ = 8 ^ scale := Nat.pow_mul 2 3 scale
      _ ≤ 10 ^ scale := Nat.pow_le_pow_left (by decide) scale
      _ ≤ units * 10 ^ scale := Nat.le_mul_of_pos_left _ positive
  obtain ⟨count, digits⟩ :=
    Nat.exists_eq_add_of_lt
      (Nat.length_toDigits_pos (b := 10) (n := units * 10 ^ scale / unitsPerOne))
  rw [digits] at whole
  refine ⟨count, scale, is, by omega, (Nat.le_div_iff_mul_le unit).mp ?_⟩
  rcases Nat.eq_zero_or_pos count with rfl | more
  · exact (Nat.le_div_iff_mul_le unit).mpr (by rwa [Nat.pow_zero, Nat.one_mul])
  · by_contra less
    have short := (Nat.length_toDigits_le_iff (by decide) more).mpr (Nat.not_le.mp less)
    omega

theorem exists_neighbour (num : Nat) {den : Nat} (positive : 0 < den) :
    ∃ n, (n = num / den ∨ n = num / den + 1) ∧ 2 * num ≤ 2 * (n * den) + den ∧
      2 * (n * den) ≤ 2 * num + den := by
  have split := Nat.div_add_mod num den
  have remainder := Nat.mod_lt num positive
  rw [Nat.mul_comm] at split
  by_cases lower : 2 * (num % den) ≤ den
  · exact ⟨num / den, .inl rfl, by omega, by omega⟩
  · have next : (num / den + 1) * den = num / den * den + den := Nat.succ_mul _ _
    exact ⟨num / den + 1, .inr rfl, by omega, by omega⟩

theorem grid_le {units unit count scale extra : Nat} {exponent : Int}
    (least : 10 ^ count * unit ≤ units * 10 ^ scale)
    (place : exponent = (count : Int) - (scale + extra)) :
    10 ^ extra * (unit * 10 ^ exponent.toNat) ≤ units * 10 ^ (-exponent).toNat := by
  rcases Nat.le_total count (scale + extra) with small | large
  · obtain ⟨j, sum⟩ := Nat.exists_eq_add_of_le small
    have places : exponent.toNat = 0 ∧ (-exponent).toNat = j := by omega
    rw [places.1, places.2, Nat.pow_zero, Nat.mul_one]
    refine Nat.le_of_mul_le_mul_left ?_ (ten_pow_pos count)
    calc 10 ^ count * (10 ^ extra * unit)
      _ = 10 ^ count * unit * 10 ^ extra := by rw [Nat.mul_comm (10 ^ extra), Nat.mul_assoc]
      _ ≤ units * 10 ^ scale * 10 ^ extra := Nat.mul_le_mul_right _ least
      _ = 10 ^ count * (units * 10 ^ j) := by
        rw [Nat.mul_assoc, ← Nat.pow_add, sum, Nat.pow_add, Nat.mul_left_comm]
  · obtain ⟨j, sum⟩ := Nat.exists_eq_add_of_le large
    have places : exponent.toNat = j ∧ (-exponent).toNat = 0 := by omega
    rw [places.1, places.2, Nat.pow_zero, Nat.mul_one]
    refine Nat.le_of_mul_le_mul_right ?_ (ten_pow_pos scale)
    calc 10 ^ extra * (unit * 10 ^ j) * 10 ^ scale
      _ = 10 ^ scale * 10 ^ extra * 10 ^ j * unit := by
        rw [Nat.mul_comm _ (10 ^ scale), Nat.mul_comm unit, ← Nat.mul_assoc, ← Nat.mul_assoc]
      _ = 10 ^ count * unit := by rw [sum, Nat.pow_add, Nat.pow_add]
      _ ≤ units * 10 ^ scale := least

/-- A double has a decimal of seventeen digits: half a step of the last of them is less than half a
    step of the double. -/
theorem seventeen_digits_are_enough {units : Nat} (positive : 0 < units)
    (double : IsDouble (.finite false units)) : (decimalOfLength? units 17).isSome = true := by
  obtain ⟨count, scale, -, leading, least⟩ := exists_leadingExponent positive
  obtain ⟨fits, inside⟩ := double
  rw [decimalOfLength_eq rfl]
  generalize place : leadingExponent units - (17 : Nat) + 1 = exponent
  have fine : 10 ^ 16 * (unitsPerOne * 10 ^ exponent.toNat) ≤ units * 10 ^ (-exponent).toNat :=
    grid_le least (by omega)
  have step : 0 < unitsPerOne * 10 ^ exponent.toNat := Nat.mul_pos unitsPerOne_pos (ten_pow_pos _)
  rw [Nat.pow_eq, Nat.pow_eq]
  obtain ⟨n, neighbour, below, above⟩ := exists_neighbour (units * 10 ^ (-exponent).toNat) step
  refine neighbour_isSome neighbour (readsBack_iff.mpr ?_)
  have scaled : n * 10 ^ exponent.toNat * unitsPerOne =
      n * (unitsPerOne * 10 ^ exponent.toNat) := by
    rw [Nat.mul_assoc, Nat.mul_comm unitsPerOne]
  generalize unitsPerOne * 10 ^ exponent.toNat = grid at *
  have digits : 0 < n := by
    rcases Nat.eq_zero_or_pos n with rfl | digits
    · omega
    · exact digits
  have rounded : unitsOfRatio (n * 10 ^ exponent.toNat) (10 ^ (-exponent).toNat) = units :=
    unitsOfRatio_of_near (ten_pow_pos _) fits (by omega) (by omega)
  dsimp only
  rw [ofDecimal_eq_ofRatio false digits, ofRatio, rounded]
  exact if_pos inside

theorem shortest_reads_back {units : Nat} (positive : 0 < units)
    (double : IsDouble (.finite false units)) :
    ofDecimal false (shortest units).digits (shortest units).exponent = .finite false units := by
  rw [← readsBack_iff]
  cases found : (List.range 17).findSome? fun n => decimalOfLength? units (n + 1) with
  | none =>
    have none := List.findSome?_eq_none_iff.mp found 16 (by decide)
    have some := seventeen_digits_are_enough positive double
    rw [none] at some
    cases some
  | some d =>
    obtain ⟨n, -, taken⟩ := List.exists_of_findSome?_eq_some found
    rw [decimalOfLength_eq rfl] at taken
    rw [shortest, found, Option.getD_some]
    exact readsBack_of_neighbour taken

end PageLayers.Number
