import Mathlib.Data.List.Infix
import PageLayers.Proofs.LowerCase
import PageLayers.Proofs.Operators

/-!
The test whether a text contains another, capitals apart. A text is found in every text that has it
as a part exactly if its capital sigmas are settled, and the same texts keep what is found in them.
-/

namespace PageLayers

section lists
variable {α β : Type}

theorem eq_of_mem_of_prefix_cons {c : α} {w : List α} (shifted : w <+: c :: w) : ∀ x ∈ w,
    x = c := by
  induction w with
  | nil => simp
  | cons d w ih =>
    obtain ⟨rfl, rest⟩ := List.cons_prefix_cons.mp shifted
    intro x member
    rcases List.mem_cons.mp member with rfl | later
    · rfl
    · exact ih rest x later

theorem infix_cons_of_length_eq {c : α} {part whole : List α} (found : part <:+: c :: whole)
    (same : part.length = whole.length) : part <+: c :: whole ∨ part = whole :=
  (List.infix_cons_iff.mp found).imp_right fun inside => inside.eq_of_length same

end lists

namespace Text

/-- Two forms of one text that are lowered differently are not found in each other when a letter is
    put before one of them: only a text of that letter alone comes back one place further. -/
theorem not_infix_letter_cons {form form' : List Char}
    (same : form.map plainSigma = form'.map plainSigma)
    (sigma : 'σ' ∈ form.map plainSigma) (differ : form ≠ form') : ¬ form <:+: 'a' :: form' := by
  intro found
  have lengths : form.length = form'.length := by simpa using congrArg List.length same
  rcases infix_cons_of_length_eq found lengths with shifted | equal
  · have plain : form.map plainSigma <+: 'a' :: form.map plainSigma := by
      have mapped := shifted.map plainSigma
      rw [List.map_cons, ← same] at mapped
      exact mapped
    exact absurd (eq_of_mem_of_prefix_cons plain 'σ' sigma) (by decide)
  · exact differ equal

theorem map_plainSigma_eq {cs : List Char} (free : 'ς' ∉ cs) : cs.map plainSigma = cs := by
  refine (List.map_congr_left fun c member => ?_).trans (List.map_id cs)
  have other : c ≠ 'ς' := by
    rintro rfl
    exact free member
  simp [plainSigma, other]

theorem infix_of_infix_map_plainSigma {part whole : List Char} (free : 'σ' ∉ part)
    (found : part <:+: whole.map plainSigma) : part <:+: whole := by
  obtain ⟨front, back, split⟩ := found
  obtain ⟨rest, back', rfl, joined, -⟩ := List.map_eq_append_iff.mp split.symm
  obtain ⟨front', part', rfl, -, rfl⟩ := List.map_eq_append_iff.mp joined
  have same : part'.map plainSigma = part' :=
    map_plainSigma_eq fun final => free (List.mem_map.mpr ⟨'ς', final, rfl⟩)
  exact ⟨front', back', by rw [same]⟩

theorem exists_not_found {cs : List Char} (unsettled : sigmasSettledFrom [] cs = false) :
    ∃ front back, ¬ lowerFrom [] cs <:+: lowerFrom [] (front ++ cs ++ back) := by
  obtain ⟨cs', ds, split, -⟩ := exists_unsettled unsettled
  have sigma : 'σ' ∈ (lowerFrom [] cs).map plainSigma := by
    rw [split, lowerFrom_eq, lowerBetween_append, List.map_append, List.mem_append]
    refine .inr ?_
    rw [lowerBetween, if_pos rfl]
    simp [plainSigma_lowerSigma]
  have letter : ∀ before after, lowerBetween before ['a'] after = ['a'] := fun _ _ => rfl
  rcases lowerBetween_ne_of_unsettled unsettled with differ | differ
  · refine ⟨['a'], [], ?_⟩
    have lowered : lowerFrom [] (['a'] ++ cs ++ []) = 'a' :: lowerBetween ['a'] cs [] := by
      rw [lowerFrom_eq, List.append_nil, lowerBetween_append, letter]
      rfl
    rw [lowered]
    refine not_infix_letter_cons ?_ sigma differ
    rw [lowerFrom_eq, map_plainSigma_lowerBetween]
  · refine ⟨[], ['a'], ?_⟩
    have lowered : lowerFrom [] ([] ++ cs ++ ['a']) = lowerBetween [] cs ['a'] ++ ['a'] := by
      rw [lowerFrom_eq, List.nil_append, lowerBetween_append, letter]
      rfl
    rw [lowered, ← List.reverse_infix, List.reverse_concat]
    -- Read from its end, the text has the letter in front.
    refine not_infix_letter_cons ?_ ?_ (fun same => differ (List.reverse_injective same))
    · rw [List.map_reverse, List.map_reverse, lowerFrom_eq, map_plainSigma_lowerBetween]
    · rw [List.map_reverse, List.mem_reverse]
      exact sigma

end Text

namespace Visibility

theorem occursIn_iff {part cs : List Char} : occursIn part cs = true ↔ part <:+: cs := by
  induction cs with
  | nil => simp [occursIn]
  | cons c cs ih =>
    rw [occursIn, Bool.or_eq_true, ih, List.isPrefixOf_iff_prefix, List.infix_cons_iff]

theorem containsText_iff {whole part : String} :
    containsText whole part = true ↔ Text.lowerFrom [] part.toList <:+:
      Text.lowerFrom [] whole.toList := by
  rw [containsText, occursIn_iff]
  simp [Text.lower]

/-- Conditions on a field with the one text find the other text in it, whatever else they hold and
    whatever is in scope. -/
def Finds (actual expected : String) : Prop :=
  ∀ (c : Condition) (ctx : Context), c.source = .collectionField →
    FieldKind.ofType c.fieldType = .text →
    c.fieldValue ctx = some actual → c.value = some expected →
    c.ask .contains ctx = .ok true ∧ c.ask .doesNotContain ctx = .ok false

theorem finds_iff {actual expected : String} : Finds actual expected ↔
    containsText actual expected = true := by
  constructor
  · intro finds
    have test := (finds (fieldTest .text "contains" expected) (fieldHolds actual) rfl rfl rfl rfl).1
    rw [Condition.ask_field rfl] at test
    exact Except.ok.inj test
  · intro found c ctx source text stored asked
    have answers : ∀ op, c.ask op ctx = .ok (evalText op (some actual) (some expected)) := by
      intro op
      rw [Condition.ask_field source, evalField_eq, text, stored, asked]
    simp [answers, evalText, found]

section surroundings
variable {text part whole : String}

theorem lower_infix_of_settled (settled : Text.sigmasSettled text = true)
    (inside : text.toList <:+: whole.toList) :
    Text.lowerFrom [] text.toList <:+: Text.lowerFrom [] whole.toList := by
  obtain ⟨front, back, split⟩ := inside
  rw [← split, ← Text.lowerBetween_of_settled settled front.reverse back]
  exact Text.infix_lowerFrom_append front text.toList back

theorem infix_plain_lower (inside : text.toList <:+: whole.toList) :
    (Text.lowerFrom [] text.toList).map Text.plainSigma <:+:
      (Text.lowerFrom [] whole.toList).map Text.plainSigma := by
  obtain ⟨front, back, split⟩ := inside
  rw [← split, Text.lowerFrom_eq,
    Text.map_plainSigma_lowerBetween [] front.reverse text.toList [] back]
  exact (Text.infix_lowerFrom_append front text.toList back).map Text.plainSigma

theorem settled_of_found
    (found : ∀ whole : String, text.toList <:+: whole.toList → Finds whole text) :
    Text.sigmasSettled text = true := by
  by_contra unsettled
  obtain ⟨front, back, lost⟩ :=
    Text.exists_not_found (by simpa [Text.sigmasSettled] using unsettled)
  have here := found (String.ofList (front ++ text.toList ++ back)) (by simp)
  rw [finds_iff, containsText_iff, String.toList_ofList] at here
  exact lost here

/-- A text is found in all texts that have it as a part exactly if its capital sigmas are settled,
    and exactly then all texts that have it as a part keep what is found in it. Whatever the text,
    they keep what is found in it and has no sigma; and they have it as a part in lower case if its
    sigmas are not told apart. -/
theorem matches_are_kept_iff_sigmas_settled (text : String) :
    ((∀ whole : String, text.toList <:+: whole.toList → Finds whole text) ↔
      Text.sigmasSettled text = true) ∧
    ((∀ part : String, Finds text part → ∀ whole : String, text.toList <:+: whole.toList →
      Finds whole part) ↔
      Text.sigmasSettled text = true) ∧
    (∀ part : String, (∀ c ∈ part.toList, c ∉ ['Σ', 'σ', 'ς']) → Finds text part →
      ∀ whole : String, text.toList <:+: whole.toList → Finds whole part) ∧
    (∀ whole : String, text.toList <:+: whole.toList →
      (Text.lower text).toList.map Text.plainSigma <:+:
        (Text.lower whole).toList.map Text.plainSigma) := by
  have itself : Finds text text := finds_iff.mpr (containsText_iff.mpr (List.infix_refl _))
  refine ⟨⟨settled_of_found, ?_⟩, ⟨fun kept => settled_of_found (kept text itself), ?_⟩, ?_, ?_⟩
  · intro settled whole inside
    exact finds_iff.mpr (containsText_iff.mpr (lower_infix_of_settled settled inside))
  · intro settled part found whole inside
    rw [finds_iff, containsText_iff] at found ⊢
    exact found.trans (lower_infix_of_settled settled inside)
  · intro part free found whole inside
    rw [finds_iff, containsText_iff] at found ⊢
    have sigmas := Text.lowerBetween_sigma_free free [] []
    rw [← Text.lowerFrom_eq] at sigmas
    have same : (Text.lowerFrom [] part.toList).map Text.plainSigma =
      Text.lowerFrom [] part.toList :=
      Text.map_plainSigma_eq sigmas.2
    refine Text.infix_of_infix_map_plainSigma sigmas.1 ?_
    rw [← same]
    exact (found.map Text.plainSigma).trans (infix_plain_lower inside)
  · intro whole inside
    simpa [Text.lower] using infix_plain_lower inside

end surroundings

theorem wisdom_is_found_in_philosophy :
    Text.sigmasSettled "ΣΟΦΙΑ" = true ∧ "ΣΟΦΙΑ".toList <:+: "ΦΙΛΟΣΟΦΙΑ".toList ∧
    Finds "ΦΙΛΟΣΟΦΙΑ" "ΣΟΦΙΑ" := by
  have settled : Text.sigmasSettled "ΣΟΦΙΑ" = true := by decide +kernel
  have inside : "ΣΟΦΙΑ".toList <:+: "ΦΙΛΟΣΟΦΙΑ".toList := ⟨"ΦΙΛΟ".toList, [], by decide +kernel⟩
  exact ⟨settled, inside, (matches_are_kept_iff_sigmas_settled "ΣΟΦΙΑ").1.mpr settled _ inside⟩

theorem sigma_is_lost_at_end_of_word :
    ¬ (∀ actual expected : String, expected.toList <:+: actual.toList → Finds actual expected) ∧
    ¬ (∀ actual expected whole : String, Finds actual expected → actual.toList <:+: whole.toList →
      Finds whole expected) := by
  have inside : "Σ".toList <:+: "ΑΣ".toList := ⟨"Α".toList, [], by decide +kernel⟩
  have lost : containsText "ΑΣ" "Σ" = false := by decide +kernel
  have alone : containsText "Σ" "Σ" = true := by decide +kernel
  constructor
  · intro claimed
    have found := finds_iff.mp (claimed "ΑΣ" "Σ" inside)
    rw [lost] at found
    cases found
  · intro claimed
    have found := finds_iff.mp (claimed "Σ" "Σ" "ΑΣ" (finds_iff.mpr alone) inside)
    rw [lost] at found
    cases found

end Visibility
end PageLayers
