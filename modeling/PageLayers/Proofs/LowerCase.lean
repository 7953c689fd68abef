import Mathlib.Data.List.TakeWhile
import PageLayers.Text.Case

/-!
Lower case of a part of a text. A capital sigma is the only character whose lower case depends on
what stands around it. So a part is lowered as it is on its own wherever its sigmas are settled by
their neighbours in it, and everywhere up to the two forms of a small sigma.
-/

namespace PageLayers.Text

def lowerBetween (before cs after : List Char) : List Char :=
  match cs with
  | [] => []
  | c :: cs =>
    (if c = 'Σ' then [lowerSigma before (cs ++ after)] else lowerChar c) ++
      lowerBetween (c :: before) cs after

def passedOver (cs : List Char) : Bool := cs.all (inRanges caseIgnorableRanges)

/-- Whether the neighbours of a capital sigma tell its form, whatever comes before and after them.
    -/
def sigmaSettled (before after : List Char) : Bool :=
  (!passedOver before || casedAhead after) && (!casedAhead before || !passedOver after)

def sigmasSettledFrom (before : List Char) : List Char → Bool
  | [] => true
  | c :: cs => (c != 'Σ' || sigmaSettled before cs) && sigmasSettledFrom (c :: before) cs

def sigmasSettled (s : String) : Bool := sigmasSettledFrom [] s.toList

def plainSigma (c : Char) : Char := if c = 'ς' then 'σ' else c

section between
variable {before before' after after' cs ds : List Char}

theorem lowerFrom_eq (before cs : List Char) : lowerFrom before cs = lowerBetween before cs [] := by
  induction cs generalizing before with
  | nil => rfl
  | cons c cs ih =>
    unfold lowerFrom lowerBetween
    rw [ih, List.append_nil]
    split <;> rfl

theorem lowerBetween_append (before cs ds after : List Char) :
    lowerBetween before (cs ++ ds) after =
      lowerBetween before cs (ds ++ after) ++ lowerBetween (cs.reverse ++ before) ds after := by
  induction cs generalizing before with
  | nil => rfl
  | cons c cs ih => simp [lowerBetween, ih]

theorem plainSigma_lowerSigma (before after : List Char) : plainSigma (lowerSigma before after) =
    'σ' := by
  unfold lowerSigma
  split <;> rfl

theorem map_plainSigma_lowerBetween (before before' cs after after' : List Char) :
    (lowerBetween before cs after).map plainSigma = (lowerBetween before' cs after').map
      plainSigma := by
  induction cs generalizing before before' with
  | nil => rfl
  | cons c cs ih =>
    unfold lowerBetween
    rw [List.map_append, List.map_append, ih (c :: before) (c :: before')]
    congr 1
    split
    · simp only [List.map_cons, List.map_nil, plainSigma_lowerSigma]
    · rfl

theorem length_lowerBetween (before before' cs after after' : List Char) :
    (lowerBetween before cs after).length = (lowerBetween before' cs after').length := by
  simpa using congrArg List.length (map_plainSigma_lowerBetween before before' cs after after')

theorem infix_lowerFrom_append (front cs back : List Char) :
    lowerBetween front.reverse cs back <:+: lowerFrom [] (front ++ cs ++ back) := by
  refine ⟨lowerBetween [] front (cs ++ back), lowerBetween (cs.reverse ++ front.reverse) back [],
    ?_⟩
  rw [lowerFrom_eq, List.append_assoc front, lowerBetween_append, lowerBetween_append]
  simp

theorem passedOver_iff : passedOver cs = true ↔
    cs.dropWhile (inRanges caseIgnorableRanges) = [] := by
  rw [passedOver, List.all_eq_true, List.dropWhile_eq_nil_iff]

theorem casedAhead_of_passedOver (passed : passedOver cs = true) : casedAhead cs = false := by
  rw [casedAhead, passedOver_iff.mp passed]

theorem casedAhead_append_of_passedOver (passed : passedOver cs = true) (ds : List Char) :
    casedAhead (cs ++ ds) = casedAhead ds := by
  rw [casedAhead, casedAhead, List.dropWhile_append, passedOver_iff.mp passed]
  rfl

theorem casedAhead_append_of_not_passedOver (stops : passedOver cs = false) (ds : List Char) :
    casedAhead (cs ++ ds) = casedAhead cs := by
  have rest : cs.dropWhile (inRanges caseIgnorableRanges) ≠ [] := fun none => by
    simp [passedOver_iff.mpr none] at stops
  obtain ⟨c, cs', split⟩ := List.exists_cons_of_ne_nil rest
  simp [casedAhead, List.dropWhile_append, split]

theorem not_passedOver_of_casedAhead (cased : casedAhead cs = true) : passedOver cs = false := by
  by_contra passed
  simp [casedAhead_of_passedOver (by simpa using passed)] at cased

theorem lowerSigma_of_settled (settled : sigmaSettled before after = true)
    (before' after' : List Char) :
    lowerSigma (before ++ before') (after ++ after') = lowerSigma before after := by
  obtain ⟨front, back⟩ : (passedOver before = false ∨ casedAhead after = true) ∧
      (casedAhead before = false ∨ passedOver after = false) := by
        simpa [sigmaSettled] using settled
  unfold lowerSigma
  cases cased : casedAhead after with
  | true =>
    -- A letter with case follows, so that the form is not the final one in any case.
    rw [casedAhead_append_of_not_passedOver (not_passedOver_of_casedAhead cased), cased]
    simp
  | false =>
    have stops : passedOver before = false := by simpa [cased] using front
    rw [casedAhead_append_of_not_passedOver stops]
    rcases back with uncased | stops'
    · simp [uncased]
    · rw [casedAhead_append_of_not_passedOver stops', cased]

theorem lowerBetween_of_settled (settled : sigmasSettledFrom before cs = true)
    (before' after : List Char) :
    lowerBetween (before ++ before') cs after = lowerFrom before cs := by
  induction cs generalizing before with
  | nil => rfl
  | cons c cs ih =>
    obtain ⟨first, rest⟩ : (c ≠ 'Σ' ∨ sigmaSettled before cs = true) ∧
        sigmasSettledFrom (c :: before) cs = true := by
      simpa [sigmasSettledFrom] using settled
    unfold lowerBetween lowerFrom
    rw [← List.cons_append, ih rest]
    split
    · rename_i sigma
      have form := lowerSigma_of_settled (first.resolve_left (not_not.mpr sigma)) before' after
      rw [form]
      rfl
    · rfl

theorem exists_unsettled (unsettled : sigmasSettledFrom before cs = false) :
    ∃ cs' ds, cs = cs' ++ 'Σ' :: ds ∧ sigmaSettled (cs'.reverse ++ before) ds = false := by
  induction cs generalizing before with
  | nil => simp [sigmasSettledFrom] at unsettled
  | cons c cs ih =>
    by_cases first : c = 'Σ' ∧ sigmaSettled before cs = false
    · exact ⟨[], cs, by rw [first.1]; rfl, first.2⟩
    · have rest : sigmasSettledFrom (c :: before) cs = false := by
        by_contra settled
        simp_all [sigmasSettledFrom]
      obtain ⟨cs', ds, rfl, found⟩ := ih rest
      exact ⟨c :: cs', ds, rfl, by simpa using found⟩

theorem lowerBetween_ne (forms : lowerSigma (cs.reverse ++ before) (ds ++ after) ≠
    lowerSigma (cs.reverse ++ before') (ds ++ after')) :
    lowerBetween before (cs ++ 'Σ' :: ds) after ≠
      lowerBetween before' (cs ++ 'Σ' :: ds) after' := by
  intro same
  rw [lowerBetween_append, lowerBetween_append] at same
  obtain ⟨-, tails⟩ := List.append_inj same (length_lowerBetween _ _ _ _ _)
  exact forms (List.cons.inj tails).1

/-- A sigma that is not settled changes its form when a letter is put before all or after all. -/
theorem lowerBetween_ne_of_unsettled (unsettled : sigmasSettledFrom [] cs = false) :
    lowerFrom [] cs ≠ lowerBetween ['a'] cs [] ∨ lowerFrom [] cs ≠ lowerBetween [] cs ['a'] := by
  obtain ⟨cs, ds, rfl, found⟩ := exists_unsettled unsettled
  have letter : casedAhead ['a'] = true := by decide +kernel
  rw [lowerFrom_eq]
  rw [List.append_nil] at found
  simp only [sigmaSettled, Bool.and_eq_false_iff, Bool.or_eq_false_iff, Bool.not_eq_false'] at found
  rcases found with ⟨passed, uncased⟩ | ⟨cased, passed⟩
  · refine .inl (lowerBetween_ne ?_)
    simp [lowerSigma, casedAhead_of_passedOver passed, casedAhead_append_of_passedOver passed,
      uncased, letter]
  · refine .inr (lowerBetween_ne ?_)
    simp [lowerSigma, cased, casedAhead_of_passedOver passed,
      casedAhead_append_of_passedOver passed, letter]

end between

section plain
variable {c : Char}

theorem eq_toNat_of_ofNat_eq {n : Nat} (same : Char.ofNat n = c) (positive : c.toNat ≠ 0) :
    n = c.toNat := by
  by_cases valid : n.isValidChar
  · have char : Char.ofNat n = Char.ofNatAux n valid := dif_pos valid
    rw [← same, char]
    rfl
  · have null : Char.ofNat n = Char.ofNat 0 := dif_neg valid
    exact absurd (by rw [← same, null]; rfl) positive

theorem toNat_toLower_lt (ascii : c.toNat < 0x80) : c.toLower.toNat < 0x80 := by
  unfold Char.toLower
  split
  · rename_i capital
    have step : ('a'.val - 'A'.val).toNat = 32 := rfl
    have upper : c.val.toNat ≤ 90 := capital.2
    change (c.val + ('a'.val - 'A'.val)).toNat < 0x80
    rw [UInt32.toNat_add]
    omega
  · exact ascii

theorem lowerRuns_sigma : ∀ r ∈ lowerRuns, ∀ small ∈ [0x3C2, 0x3C3], r.target ≤ small →
    r.first + (small - r.target) ≤ r.last → r.first + (small - r.target) = 0x3A3 := by
      decide +kernel

theorem lowerChar_sigma_free (free : c ∉ ['Σ', 'σ', 'ς']) : 'σ' ∉ lowerChar c ∧
    'ς' ∉ lowerChar c := by
  simp only [List.mem_cons, List.not_mem_nil, or_false, not_or] at free
  have table : ∀ small : Char, small.toNat ∈ [0x3C2, 0x3C3] → c ≠ small →
      throughRuns lowerRuns c ≠ small := by
    intro small listed other same
    unfold throughRuns at same
    split at same
    · rename_i r found
      have covered := List.find?_some found
      have place := eq_toNat_of_ofNat_eq same (by rintro zero; simp [zero] at listed)
      simp only [CharRun.covers, Bool.and_eq_true, decide_eq_true_eq] at covered
      have capital := lowerRuns_sigma r (List.mem_of_find?_eq_some found) _ listed (by omega)
        (by omega)
      exact free.1 (Char.toNat_inj.mp (by rw [show 'Σ'.toNat = 0x3A3 from rfl]; omega))
    · exact other same
  unfold lowerChar
  split_ifs with ascii dotted
  · have small : ∀ sigma : Char, 0x80 ≤ sigma.toNat → sigma ∉ [c.toLower] := by
      intro sigma beyond member
      have within := toNat_toLower_lt ascii
      rw [← List.mem_singleton.mp member] at within
      omega
    exact ⟨small 'σ' (by decide), small 'ς' (by decide)⟩
  · decide
  · exact ⟨by
      simpa using (table 'σ' (by decide) free.2.1).symm, by
        simpa using (table 'ς' (by decide) free.2.2).symm⟩

theorem lowerBetween_sigma_free {cs : List Char} (free : ∀ c ∈ cs, c ∉ ['Σ', 'σ', 'ς'])
    (before after : List Char) :
    'σ' ∉ lowerBetween before cs after ∧ 'ς' ∉ lowerBetween before cs after := by
  induction cs generalizing before with
  | nil => simp [lowerBetween]
  | cons c cs ih =>
    have first := free c (List.mem_cons_self ..)
    have rest := ih (fun d member => free d (List.mem_cons_of_mem c member)) (c :: before)
    have other : c ≠ 'Σ' := by rintro rfl; simp at first
    have here := lowerChar_sigma_free first
    unfold lowerBetween
    rw [if_neg other]
    simp [here, rest]

end plain

end PageLayers.Text
