import Mathlib.Algebra.Order.Floor.Div
import PageLayers.Proofs.PageTotals
import PageLayers.Proofs.Rounding

/-!
When the number of pages is exact. The quotient of items and page size is rounded to a double before
it is rounded up, so that a rest of less than half a step of the doubles there is lost, and with it
the page that it begins. This takes more items than a significand can count, or pages so large that
the quotient rounds to zero.
-/

namespace PageLayers

theorem mul_le_roundHalfEven {num den n : Nat} (positive : 0 < den) (bound : n * den ≤ num) :
    n ≤ roundHalfEven num den :=
  Nat.le_trans ((Nat.le_div_iff_mul_le positive).mpr bound) (le_roundHalfEven num den)

theorem roundHalfEven_eq_iff {n rest den : Nat} (positive : 0 < den) :
    roundHalfEven (n * den + rest) den = n ↔ 2 * rest < den ∨ 2 * rest = den ∧ n % 2 = 0 := by
  by_cases proper : rest < den
  · have quotient : (n * den + rest) / den = n := by
      rw [Nat.add_comm, Nat.add_mul_div_right _ _ positive, Nat.div_eq_of_lt proper, Nat.zero_add]
    have remainder : (n * den + rest) % den = rest := by
      rw [Nat.add_comm, Nat.add_mul_mod_self_right, Nat.mod_eq_of_lt proper]
    unfold roundHalfEven
    dsimp only
    rw [quotient, remainder]
    split_ifs <;> omega
  · have more : n + 1 ≤ roundHalfEven (n * den + rest) den :=
      mul_le_roundHalfEven positive (by rw [Nat.succ_mul]; omega)
    omega

theorem log2_mul_two_pow_div {num den : Nat} (positive : 0 < den) (whole : num / den ≠ 0)
    (m : Nat) : (num * 2 ^ m / den).log2 = (num / den).log2 + m := by
  obtain ⟨low, high⟩ := (Nat.log2_eq_iff whole).mp rfl
  generalize (num / den).log2 = l at low high ⊢
  rw [Nat.le_div_iff_mul_le positive] at low
  rw [Nat.div_lt_iff_lt_mul positive] at high
  have least : 2 ^ (l + m) ≤ num * 2 ^ m / den := by
    rw [Nat.le_div_iff_mul_le positive, Nat.pow_add, Nat.mul_right_comm]
    exact Nat.mul_le_mul_right _ low
  refine (Nat.log2_eq_iff (Nat.ne_of_gt (Nat.lt_of_lt_of_le (Nat.two_pow_pos _) least))).mpr
    ⟨least, ?_⟩
  rw [Nat.div_lt_iff_lt_mul positive, Nat.add_right_comm, Nat.pow_add, Nat.mul_right_comm]
  exact Nat.mul_lt_mul_of_pos_right high (Nat.two_pow_pos m)

namespace Binary64

theorem ceilUnits_le_iff {units n : Nat} : ceilUnits units ≤ n ↔ units ≤ n * unitsPerOne := by
  refine ⟨fun bound => ?_, ceilUnits_le⟩
  have positive := unitsPerOne_pos
  have less := (Nat.div_lt_iff_lt_mul positive).mp (Nat.lt_succ_of_le bound)
  rw [Nat.succ_mul] at less
  generalize unitsPerOne = one at *
  omega

theorem unitsOfRatio_eq_zero_iff {num den : Nat} (positive : 0 < den) :
    unitsOfRatio num den = 0 ↔ 2 * (num * unitsPerOne) ≤ den := by
  by_cases below : num * unitsPerOne < den
  · have floor : num * unitsPerOne / den = 0 := Nat.div_eq_of_lt below
    have grid : unitsOfRatio num den = roundHalfEven (0 * den + num * unitsPerOne) den := by
      unfold unitsOfRatio
      simp [floor]
    rw [grid, roundHalfEven_eq_iff positive]
    omega
  · have one : 2 ^ 0 ≤ unitsOfRatio num den := by
      refine two_pow_le_unitsOfRatio ?_ positive
      rw [Nat.pow_zero, Nat.one_mul]
      exact Nat.not_lt.mp below
    generalize num * unitsPerOne = scaled at below ⊢
    omega

variable {num den n : Nat}

theorem unitsOfRatio_le_iff_of_fine (positive : 0 < den) (whole : num / den ≠ 0)
    (fine : num / den < 2 ^ 53) :
    unitsOfRatio num den ≤ n * unitsPerOne ↔
      roundHalfEven (num * 2 ^ (52 - (num / den).log2)) den ≤ n * 2 ^ (52 - (num / den).log2) := by
  obtain ⟨m, exponent, power⟩ := unitsPerOne_eq
  have log : (num / den).log2 < 53 := (Nat.log2_lt whole).mpr fine
  unfold unitsOfRatio
  dsimp only
  rw [power, log2_mul_two_pow_div positive whole]
  generalize (num / den).log2 = l at log ⊢
  obtain ⟨e, place, sum⟩ : ∃ e, l + m + 1 - 53 = e ∧ m = 52 - l + e := ⟨_, rfl, by omega⟩
  rw [place, Nat.pow_eq, sum, Nat.pow_add, ← Nat.mul_assoc, ← Nat.mul_assoc,
    roundHalfEven_scale _ _ (Nat.two_pow_pos e), Nat.mul_le_mul_right_iff (Nat.two_pow_pos e)]

theorem unitsOfRatio_le_iff_of_coarse (positive : 0 < den) (coarse : 2 ^ 52 ≤ num / den) :
    unitsOfRatio num den ≤ n * unitsPerOne ↔
      roundHalfEven num (den * 2 ^ ((num / den).log2 - 52)) * 2 ^ ((num / den).log2 - 52) ≤ n := by
  obtain ⟨m, exponent, power⟩ := unitsPerOne_eq
  have whole : num / den ≠ 0 := Nat.ne_of_gt (Nat.lt_of_lt_of_le (Nat.two_pow_pos 52) coarse)
  have log : 52 ≤ (num / den).log2 := (Nat.le_log2 whole).mpr coarse
  unfold unitsOfRatio
  dsimp only
  rw [power, log2_mul_two_pow_div positive whole]
  generalize (num / den).log2 = l at log ⊢
  obtain ⟨e, place⟩ : ∃ e, l + m + 1 - 53 = e + m ∧ l - 52 = e := ⟨l - 52, by omega, rfl⟩
  rw [place.1, place.2, Nat.pow_eq, Nat.pow_add, ← Nat.mul_assoc den,
    roundHalfEven_scale _ _ (Nat.two_pow_pos m), ← Nat.mul_assoc,
    Nat.mul_le_mul_right_iff (Nat.two_pow_pos m)]

end Binary64

namespace Pagination

variable {total size : Nat}

theorem ceilDiv_le_iff {n : Nat} (positive : 0 < size) : total ⌈/⌉ size ≤ n ↔ total ≤ n * size := by
  rw [ceilDiv_le_iff_le_mul positive, Nat.mul_comm]

theorem ceilDiv_mul_lt (positive : 0 < size) : total ⌈/⌉ size * size < total + size := by
  have most := Nat.div_mul_le_self (total + size - 1) size
  rw [← Nat.ceilDiv_eq_add_pred_div] at most
  omega

theorem isLeast_iff {n : Nat} (positive : 0 < size) : IsLeast {n | total ≤ n * size} n ↔
    n = total ⌈/⌉ size := by
  have enough : ∀ {m}, total ⌈/⌉ size ≤ m ↔ total ≤ m * size := ceilDiv_le_iff positive
  have least : IsLeast {n | total ≤ n * size} (total ⌈/⌉ size) := by
    constructor
    · exact enough.mp (Nat.le_refl _)
    · exact fun m => enough.mpr
  exact ⟨fun also => also.unique least, fun same => same ▸ least⟩

/-- Whether the number of pages that a number of items fills comes out exactly. A rest past the full
    pages has to be more than half a step of the doubles around their number, and no less than half
    a step above an odd one; up from the doubles that are whole numbers, the exact number has to be
    one of them. -/
def CountsExactly (total size : Nat) : Prop :=
  let full := total / size
  let rest := total % size
  if full = 0 then rest = 0 ∨ size < 2 * (rest * Binary64.unitsPerOne)
  else if full < 2 ^ 53 then
    rest = 0 ∨ size < rest * 2 ^ (53 - full.log2) ∨ size = 2 * rest ∧ 2 ^ 52 ≤ full ∧ full % 2 = 1
  else 2 ^ (full.log2 - 52) ∣ total ⌈/⌉ size

instance (total size : Nat) : Decidable (CountsExactly total size) :=
  inferInstanceAs (Decidable (ite _ _ _))

theorem pageCount_le_iff {n : Nat} :
    pageCount total size ≤ n ↔ Binary64.unitsOfRatio total size ≤ n * Binary64.unitsPerOne :=
  Binary64.ceilUnits_le_iff

theorem pageCount_eq_ceilDiv_iff (positive : 0 < size) : pageCount total size = total ⌈/⌉ size ↔
    ∀ n, Binary64.unitsOfRatio total size ≤ n * Binary64.unitsPerOne ↔ total ≤ n * size := by
  simp only [← pageCount_le_iff, ← ceilDiv_le_iff positive]
  constructor
  · intro same n
    rw [same]
  · exact eq_of_forall_ge_iff

theorem rounds_to_full_iff (positive : 0 < size) (c : Nat) : roundHalfEven (total * c) size =
    total / size * c ↔
    2 * (total % size * c) < size ∨ 2 * (total % size * c) = size ∧ total / size * c % 2 = 0 := by
  have split : total * c = total / size * c * size + total % size * c := by
    rw [Nat.mul_right_comm, ← Nat.add_mul, Nat.div_add_mod']
  rw [split, roundHalfEven_eq_iff positive]

theorem rounded_parts_agree_iff (positive : 0 < size) {c : Nat} (parts : 0 < c) :
    (∀ n, roundHalfEven (total * c) size ≤ n * c ↔ total ≤ n * size) ↔
      total % size = 0 ∨ roundHalfEven (total * c) size ≠ total / size * c := by
  have split := Nat.div_add_mod' total size
  have proper := Nat.mod_lt total positive
  have full : total / size * c ≤ roundHalfEven (total * c) size := by
    refine mul_le_roundHalfEven positive ?_
    rw [Nat.mul_right_comm]
    exact Nat.mul_le_mul_right c (Nat.div_mul_le_self total size)
  constructor
  · intro agree
    by_contra lost
    rw [not_or, not_not] at lost
    have enough := (agree (total / size)).mp (Nat.le_of_eq lost.2)
    omega
  · intro kept n
    constructor
    · intro bound
      by_contra few
      have least : n ≤ total / size := (Nat.le_div_iff_mul_le positive).mpr (by omega)
      rcases Nat.lt_or_eq_of_le least with less | rfl
      · have steps := Nat.mul_lt_mul_of_pos_right less parts
        omega
      · omega
    · intro enough
      refine roundHalfEven_le positive ?_
      rw [Nat.mul_right_comm]
      exact Nat.mul_le_mul_right c enough

theorem rounded_steps_agree_iff (positive : 0 < size) {g : Nat} (steps : 2 ≤ g) :
    (∀ n, roundHalfEven total (size * g) * g ≤ n ↔ total ≤ n * size) ↔ g ∣ total ⌈/⌉ size := by
  simp only [← ceilDiv_le_iff positive]
  constructor
  · intro agree
    exact eq_of_forall_ge_iff agree ▸ Nat.dvd_mul_left g _
  · rintro ⟨a, same⟩
    have most := (ceilDiv_le_iff positive).mp (Nat.le_refl (total ⌈/⌉ size))
    have least : total ⌈/⌉ size * size < total + size := ceilDiv_mul_lt positive
    have wide : size * 2 ≤ size * g := Nat.mul_le_mul_left size steps
    have product : total ⌈/⌉ size * size = a * (size * g) := by
      rw [same, Nat.mul_comm g, Nat.mul_assoc, Nat.mul_comm g]
    rw [roundHalfEven_eq (n := a) (by omega) (by omega), same, Nat.mul_comm g]
    exact fun n => Iff.rfl

theorem countsExactly_iff_of_first (positive : 0 < size) (first : total / size = 0) :
    CountsExactly total size ↔ total = 0 ∨ size < 2 * (total * Binary64.unitsPerOne) := by
  have rest : total % size = total := by
    rw [Nat.mod_eq_of_lt]
    exact (Nat.div_eq_zero_iff_lt positive).mp first
  unfold CountsExactly
  dsimp only
  rw [if_pos first, rest]

theorem countsExactly_iff_of_fine (positive : 0 < size) (whole : total / size ≠ 0)
    (fine : total / size < 2 ^ 53) :
    CountsExactly total size ↔ total % size = 0 ∨
      roundHalfEven (total * 2 ^ (52 - (total / size).log2)) size ≠ total / size *
        2 ^ (52 - (total / size).log2) := by
  have log : (total / size).log2 ≤ 52 := Nat.le_of_lt_succ ((Nat.log2_lt whole).mpr fine)
  rw [Ne, rounds_to_full_iff positive]
  unfold CountsExactly
  dsimp only
  rw [if_neg whole, if_pos fine]
  refine or_congr_right ?_
  -- Only where the doubles are the whole numbers can the full pages be an odd number of steps.
  rcases Nat.lt_or_eq_of_le log with parts | last
  · obtain ⟨k, place, double⟩ : ∃ k, 52 - (total / size).log2 = k + 1 ∧
      53 - (total / size).log2 = k + 1 + 1 :=
      ⟨51 - (total / size).log2, by omega, by omega⟩
    have below : total / size < 2 ^ 52 := (Nat.log2_lt whole).mp parts
    have even : total / size * 2 ^ (k + 1) % 2 = 0 := by
      rw [Nat.pow_succ, ← Nat.mul_assoc, Nat.mul_mod_left]
    rw [place, double, Nat.pow_succ _ (k + 1), ← Nat.mul_assoc]
    omega
  · have above : 2 ^ 52 ≤ total / size := (Nat.le_log2 whole).mp (Nat.le_of_eq last.symm)
    rw [last]
    omega

theorem countsExactly_iff_of_coarse (coarse : 2 ^ 53 ≤ total / size) :
    CountsExactly total size ↔ 2 ^ ((total / size).log2 - 52) ∣ total ⌈/⌉ size := by
  unfold CountsExactly
  dsimp only
  rw [if_neg (by omega), if_neg (by omega)]

theorem pageCount_exact_iff_of_first (positive : 0 < size) (first : total / size = 0) :
    pageCount total size = total ⌈/⌉ size ↔ CountsExactly total size := by
  have less : total < size := (Nat.div_eq_zero_iff_lt positive).mp first
  rw [pageCount_eq_ceilDiv_iff positive, countsExactly_iff_of_first positive first]
  have none : Binary64.unitsOfRatio total size ≤ 0 ↔ 2 * (total * Binary64.unitsPerOne) ≤ size := by
    rw [Nat.le_zero, Binary64.unitsOfRatio_eq_zero_iff positive]
  constructor
  · intro agree
    have zero := agree 0
    rw [Nat.zero_mul, Nat.zero_mul, none] at zero
    omega
  · rintro kept (_ | n)
    · rw [Nat.zero_mul, Nat.zero_mul, none]
      rcases kept with rfl | kept
      · simp
      · rcases Nat.eq_zero_or_pos total with rfl | some
        · simp at kept
        · omega
    · have one : total ≤ (n + 1) * size := by
        rw [Nat.succ_mul]
        omega
      have units : Binary64.unitsOfRatio total size ≤ 1 * Binary64.unitsPerOne :=
        Binary64.unitsOfRatio_le positive (by omega) (by decide)
      exact iff_of_true (Nat.le_trans units (Nat.mul_le_mul_right _ (by omega))) one

theorem isLeast_pageCount_iff (positive : 0 < size) :
    IsLeast {n | total ≤ n * size} (pageCount total size) ↔ CountsExactly total size := by
  rw [isLeast_iff positive]
  by_cases first : total / size = 0
  · exact pageCount_exact_iff_of_first positive first
  · rw [pageCount_eq_ceilDiv_iff positive]
    by_cases fine : total / size < 2 ^ 53
    · simp only [Binary64.unitsOfRatio_le_iff_of_fine positive first fine]
      rw [rounded_parts_agree_iff positive (Nat.two_pow_pos _),
        countsExactly_iff_of_fine positive first fine]
    · have coarse : 2 ^ 53 ≤ total / size := Nat.not_lt.mp fine
      have log : 53 ≤ (total / size).log2 := (Nat.le_log2 first).mpr coarse
      have steps : 2 ^ 1 ≤ 2 ^ ((total / size).log2 - 52) :=
        Nat.pow_le_pow_right (by decide) (by omega)
      simp only [Binary64.unitsOfRatio_le_iff_of_coarse positive (Nat.le_trans (by decide) coarse)]
      rw [rounded_steps_agree_iff positive steps, countsExactly_iff_of_coarse coarse]

theorem pageCount_of_lost (positive : 0 < size) (few : total / size < 2 ^ 53)
    (lost : ¬ CountsExactly total size) :
    pageCount total size = total / size ∧ total % size ≠ 0 := by
  by_cases first : total / size = 0
  · rw [countsExactly_iff_of_first positive first, not_or, Nat.not_lt] at lost
    have units := (Binary64.unitsOfRatio_eq_zero_iff positive).mpr lost.2
    have none : pageCount total size ≤ 0 :=
      pageCount_le_iff.mpr (by rw [units]; exact Nat.zero_le _)
    have split := Nat.div_add_mod' total size
    rw [first, Nat.zero_mul] at split
    exact ⟨by omega, by omega⟩
  · rw [countsExactly_iff_of_fine positive first few, not_or, not_not] at lost
    have bounded : ∀ n, pageCount total size ≤ n ↔ total / size ≤ n := by
      intro n
      rw [pageCount_le_iff, Binary64.unitsOfRatio_le_iff_of_fine positive first few, lost.2,
        Nat.mul_le_mul_right_iff (Nat.two_pow_pos _)]
    exact ⟨eq_of_forall_ge_iff bounded, lost.1⟩

/-- Of the numbers up to the doubles that are whole numbers, one that is not exact is one too few.
    -/
theorem isLeast_succ_pageCount (positive : 0 < size) (few : total / size < 2 ^ 53)
    (lost : ¬ CountsExactly total size) :
    IsLeast {n | total ≤ n * size} (pageCount total size + 1) := by
  obtain ⟨full, partly⟩ := pageCount_of_lost positive few lost
  have split := Nat.div_add_mod' total size
  have proper := Nat.mod_lt total positive
  rw [isLeast_iff positive, full]
  refine Nat.le_antisymm (Nat.lt_of_not_le fun enough => ?_) ?_
  · have more := (ceilDiv_le_iff positive).mp enough
    omega
  · rw [ceilDiv_le_iff positive, Nat.succ_mul]
    omega

theorem countsExactly_iff_of_few (positive : 0 < size) (few : total < 2 ^ 53) :
    CountsExactly total size ↔ total = 0 ∨ size < 2 * (total * Binary64.unitsPerOne) := by
  by_cases first : total / size = 0
  · exact countsExactly_iff_of_first positive first
  · have whole : size ≤ total := Nat.not_lt.mp fun less => first (Nat.div_eq_of_lt less)
    have units : total ≤ total * Binary64.unitsPerOne :=
      Nat.le_mul_of_pos_right total Binary64.unitsPerOne_pos
    have fine : total / size < 2 ^ 53 := Nat.lt_of_le_of_lt (Nat.div_le_self total size) few
    refine iff_of_true ?_ (.inr (by omega))
    unfold CountsExactly
    dsimp only
    rw [if_neg first, if_pos fine]
    have log : (total / size).log2 ≤ 52 := Nat.le_of_lt_succ ((Nat.log2_lt first).mpr fine)
    -- The step of the doubles is as much below one as the size of the pages is below the bound.
    have step : size < 2 ^ (53 - (total / size).log2) := by
      have least := Nat.mul_le_mul_right size (Nat.log2_self_le first)
      have most := Nat.div_mul_le_self total size
      have powers : 2 ^ (total / size).log2 * 2 ^ (53 - (total / size).log2) = 2 ^ 53 := by
        rw [← Nat.pow_add]
        congr 1
        omega
      refine Nat.lt_of_mul_lt_mul_left (a := 2 ^ (total / size).log2) ?_
      omega
    rcases Nat.eq_zero_or_pos (total % size) with none | some
    · exact .inl none
    · exact .inr (.inl (Nat.lt_of_lt_of_le step (Nat.le_mul_of_pos_left _ some)))

end Pagination

namespace Resolver

variable {r : Resolver} {repo : Repository} {l : Layer} {s : CollectionSource}
    {scope : Option Values} {allowed : Option (List String)} {size p : Nat}

theorem pageOf_ne_nil_iff_of_isLeast {items : List Item} {count q : Nat} (positive : 0 < size)
    (least : IsLeast {n | items.length ≤ n * size} count) (first : 1 ≤ q) :
    pageOf size q items ≠ [] ↔ q ≤ count := by
  rw [pageOf_ne_nil_iff positive, (Pagination.isLeast_iff positive).mp least, ← Nat.not_le,
    ← Pagination.ceilDiv_le_iff positive]
  omega

/-- The fragment of a paged layer tells the least number of pages that hold all its items exactly if
    no rest is lost in the double of the quotient. Then the pages up to this number are those with
    items, and the last page is told exactly where all later pages are empty. A number that is told
    otherwise is one too few, as long as there are less than 2^53 pages. If there are less than 2^53
    items, the number is exact unless there are items and at least 2^1075 places on a page for each
    of them. -/
theorem told_pages_are_least_iff (lists : r.Lists repo l s scope allowed)
    (paged : s.perPage? r.settings = some size)
    (positive : 0 < size) (page : r.request.pageFor l.id = p) (builds : r.Builds repo l s allowed)
    {items : List Item} (listed : r.listed repo s allowed = items)
    (told : (FetchWindow.ofPage size p).Told items.length) :
    ∃ (told : Pagination.Meta) (count : Nat) (clones : List Layer),
      (r.resolveLayer l (scope.map Given.ofValues)).result =
        .ok ⟨fragmentElement l.toElement (some told), clones⟩ ∧
      (told.currentPage = p ∧ told.totalItems = items.length ∧ told.itemsPerPage = size ∧
        told.totalPages = count) ∧
      (IsLeast {n | items.length ≤ n * size} count ↔ Pagination.CountsExactly items.length size) ∧
      (Pagination.CountsExactly items.length size →
        (∀ q, 1 ≤ q → (pageOf size q items ≠ [] ↔ q ≤ count)) ∧
        (told.isLastPage = true ↔ ∀ q, p < q → pageOf size q items = [])) ∧
      (¬ Pagination.CountsExactly items.length size → items.length / size < 2 ^ 53 →
        IsLeast {n | items.length ≤ n * size} (count + 1)) ∧
      (items.length < 2 ^ 53 → (Pagination.CountsExactly items.length size ↔
        items = [] ∨ size < 2 * (items.length * Binary64.unitsPerOne))) := by
  obtain ⟨clones, resolved, -⟩ := lists.resolves_page paged positive page builds (listed ▸ told)
  rw [listed] at resolved
  have least : IsLeast {n | items.length ≤ n * size} (Pagination.pageCount items.length size) ↔ _ :=
    Pagination.isLeast_pageCount_iff positive
  refine ⟨_, Pagination.pageCount items.length size, clones, resolved, ⟨rfl, rfl, rfl, rfl⟩, least,
    fun exactly => ?_,
    fun lost few => Pagination.isLeast_succ_pageCount positive few lost, fun few => ?_⟩
  · have pages : ∀ q, 1 ≤ q →
        (pageOf size q items ≠ [] ↔ q ≤ Pagination.pageCount items.length size) := fun q first =>
      pageOf_ne_nil_iff_of_isLeast positive (least.mpr exactly) first
    refine ⟨pages, ?_⟩
    rw [Pagination.Meta.isLastPage, decide_eq_true_iff, Int.ofNat_le]
    constructor
    · intro last q later
      by_contra some
      have counted := (pages q (by omega)).mp some
      omega
    · intro empty
      by_contra more
      exact (pages (p + 1) (by omega)).mpr (by omega) (empty (p + 1) (by omega))
  · rw [Pagination.countsExactly_iff_of_few positive few, List.length_eq_zero_iff]

end Resolver

theorem two_songs_fill_one_of_three_places :
    ∃ (told : Pagination.Meta) (clones : List Layer),
      (Resolver.resolveLayer { source := charts.source } (songLayer (songsPerPage 3)) none).result =
        .ok ⟨Resolver.fragmentElement (songLayer (songsPerPage 3)).toElement (some told), clones⟩ ∧
      IsLeast {n | 2 ≤ n * 3} told.totalPages.toNat ∧ told.isLastPage = true := by
  have listed : Resolver.listed { source := charts.source } charts (songsPerPage 3) none = _ :=
    charts_listed rfl
  have exactly : Pagination.CountsExactly 2 3 := by decide +kernel
  obtain ⟨told, count, clones, resolved, ⟨_, _, _, pages⟩, least, last, _⟩ :=
    Resolver.told_pages_are_least_iff
    (charts_lists (s := songsPerPage 3) rfl rfl) (show _ = some 3 from rfl) (by decide)
    (show _ = 1 from rfl) (songsPerPage_builds 3 {}) listed (by decide +kernel)
  refine ⟨told, clones, resolved, ?_, ?_⟩
  · rw [pages]
    exact least.mpr exactly
  · refine (last exactly).2.mpr fun q later => pageOf_eq_nil ?_
    change 2 ≤ (q - 1) * 3
    change 1 < q at later
    omega

/-- With too many places on a page, two songs are told to fill no page, and they are shown on the
    first. -/
theorem songs_fill_no_page :
    ∃ (told : Pagination.Meta) (clones : List Layer),
      (Resolver.resolveLayer { source := charts.source }
        (songLayer (songsPerPage (4 * Binary64.unitsPerOne))) none).result =
        .ok ⟨Resolver.fragmentElement
          (songLayer (songsPerPage (4 * Binary64.unitsPerOne))).toElement (some told), clones⟩ ∧
      told.totalItems = 2 ∧ told.totalPages = 0 ∧ clones.map (·.itemId) = [some "s1", some "s2"] ∧
      ¬ IsLeast {n | 2 ≤ n * (4 * Binary64.unitsPerOne)} told.totalPages.toNat := by
  obtain ⟨places, same⟩ : ∃ places, 4 * Binary64.unitsPerOne = places := ⟨_, rfl⟩
  have zero : Pagination.pageCount 2 places = 0 := same ▸ (by decide +kernel)
  have room : 2 ≤ places := same ▸ (by decide +kernel)
  have told : (FetchWindow.ofPage places 1).Told 2 := same ▸ (by decide +kernel)
  have listed : Resolver.listed { source := charts.source } charts (songsPerPage places) none = _ :=
    charts_listed rfl
  obtain ⟨clones, resolved, shows⟩ :=
    (charts_lists (s := songsPerPage places) rfl rfl).resolves_page rfl
    (Nat.lt_of_lt_of_le Nat.two_pos room) rfl (songsPerPage_builds places {})
      (by rw [listed]; exact told)
  have all :
    Resolver.passing { source := charts.source } charts (songsPerPage places) none places 1 =
      [song "s1" "2", song "s2" "1"] := by
    rw [Resolver.passing, listed, pageOf, Nat.sub_self, Nat.zero_mul, List.drop_zero,
      List.take_of_length_le room]
    rfl
  rw [listed] at resolved
  rw [same]
  refine ⟨_, clones, resolved, rfl, congrArg Nat.cast zero, ?_, ?_⟩
  · rw [shows.ids]
    exact congrArg _ all
  · intro least
    have enough : 2 ≤ (Pagination.pageCount 2 places : Int).toNat * places := least.1
    simp [zero] at enough

end PageLayers
