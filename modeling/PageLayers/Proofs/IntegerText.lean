import PageLayers.Number.Reading
import PageLayers.Proofs.NumberText
import PageLayers.Proofs.Pieces

/-!
Texts that stand for whole numbers: white space at both ends, perhaps a sign, and digits of any
script with single underscores between them where wanted. Exactly these texts are read as whole
numbers, if they have no more digits than are read.
-/

namespace PageLayers

namespace Text

section digits
variable {c : Char} {d : Nat}

theorem exists_zero_of_digitValue? (digit : digitValue? c = some d) :
    ∃ z ∈ digitZeros, c.toNat = z + d ∧ d < 10 := by
  obtain ⟨z, found, rfl⟩ := Option.map_eq_some_iff.mp digit
  have within := List.find?_some found
  simp only [Bool.and_eq_true, decide_eq_true_eq] at within
  exact ⟨z, List.mem_of_find?_eq_some found, by omega, by omega⟩

theorem digitZeros_apart_from_white : ∀ z ∈ digitZeros, ∀ r ∈ whiteSpaceRanges, z + 10 ≤ r.first ∨
    r.last < z := by
  decide

theorem not_white_of_digitValue? (digit : digitValue? c = some d) : isWhiteSpace c = false := by
  obtain ⟨z, member, place, small⟩ := exists_zero_of_digitValue? digit
  rw [isWhiteSpace, inRanges, List.any_eq_false]
  intro r range
  have apart := digitZeros_apart_from_white z member r range
  simp only [Bool.and_eq_true, decide_eq_true_eq]
  omega

theorem exists_blanks (p : Char → Bool) (cs : List Char) :
    ∃ before after, cs = before ++ trimBoth p cs ++ after ∧ (∀ c ∈ before, p c = true) ∧
      ∀ c ∈ after, p c = true := by
  refine ⟨cs.takeWhile p, ((cs.dropWhile p).reverse.takeWhile p).reverse, ?_, ?_, ?_⟩
  · rw [trimBoth, List.append_assoc, ← List.reverse_append, List.takeWhile_append_dropWhile,
      List.reverse_reverse, List.takeWhile_append_dropWhile]
  · exact fun c member => List.mem_takeWhile_imp member
  · exact fun c member => List.mem_takeWhile_imp (List.mem_reverse.mp member)

end digits

end Text

namespace Number
open Text (digitValue?)

/-- Digits with these values, and perhaps an underscore between one and the next. -/
inductive Grouped : List Char → List Nat → Prop
  | last {c : Char} {d : Nat} (digit : digitValue? c = some d) : Grouped [c] [d]
  | next {c : Char} {d : Nat} {cs : List Char} {ds : List Nat} (digit : digitValue? c = some d)
      (rest : Grouped cs ds) : Grouped (c :: cs) (d :: ds)
  | mark {c : Char} {d : Nat} {cs : List Char} {ds : List Nat} (digit : digitValue? c = some d)
      (rest : Grouped cs ds) : Grouped (c :: '_' :: cs) (d :: ds)

def decimalValue (ds : List Nat) : Nat := ds.foldl (fun n d => 10 * n + d) 0

def signs : List (List Char × Bool) := [([], false), (['+'], false), (['-'], true)]

def Spells (s : String) (n : Int) : Prop :=
  ∃ before sign body after ds negative,
    s.toList = before ++ (sign ++ body) ++ after ∧ (∀ c ∈ before, Text.isWhiteSpace c = true) ∧
    (∀ c ∈ after, Text.isWhiteSpace c = true) ∧ (sign, negative) ∈ signs ∧ Grouped body ds ∧
    ds.length ≤ maxIntegerDigits ∧ n = if negative then -(decimalValue ds : Int)
      else decimalValue ds

def asciiDigit (d : Nat) : Char := Char.ofNat ('0'.toNat + d)

section digits
variable {c : Char} {d : Nat}

theorem asciiDigit_eq (small : d < 10) : isAsciiDigit (asciiDigit d) = true ∧
    (asciiDigit d).toNat - '0'.toNat = d := by
  have table : ∀ d < 10, isAsciiDigit (asciiDigit d) = true ∧
    (asciiDigit d).toNat - '0'.toNat = d := by decide
  exact table d small

theorem plainDigit_of_some (digit : digitValue? c = some d) : plainDigit c = asciiDigit d := by
  rw [plainDigit, digit]
  rfl

theorem plainDigit_of_none (other : digitValue? c = none) : plainDigit c = c := by
  rw [plainDigit, other]

theorem digitValue?_of_isAsciiDigit (digit : isAsciiDigit c = true) :
    (digitValue? c).isSome = true := by
  simp only [isAsciiDigit, Bool.and_eq_true, decide_eq_true_eq] at digit
  have low : 48 ≤ c.toNat := digit.1
  have high : c.toNat ≤ 57 := digit.2
  rw [digitValue?, Option.isSome_map, List.find?_isSome]
  exact ⟨0x30, by decide, by simp only [Bool.and_eq_true, decide_eq_true_eq]; omega⟩

theorem isAsciiDigit_plainDigit : isAsciiDigit (plainDigit c) = (digitValue? c).isSome := by
  cases value : digitValue? c with
  | none =>
    rw [plainDigit_of_none value, Option.isSome_none]
    by_contra digit
    have some := digitValue?_of_isAsciiDigit (by simpa using digit)
    simp [value] at some
  | some d =>
    obtain ⟨-, -, -, small⟩ := Text.exists_zero_of_digitValue? value
    rw [plainDigit_of_some value, (asciiDigit_eq small).1, Option.isSome_some]

theorem eq_of_plainDigit {d : Char} (same : plainDigit c = d) (other : isAsciiDigit d = false) :
    c = d := by
  have none : digitValue? c = none := by
    rw [← Option.not_isSome_iff_eq_none, ← isAsciiDigit_plainDigit, same, other]
    decide
  rwa [plainDigit_of_none none] at same

end digits

namespace Grouped
variable {cs : List Char} {ds : List Nat}

theorem digits_lt (grouped : Grouped cs ds) : ∀ d ∈ ds, d < 10 := by
  have small : ∀ {c d}, digitValue? c = some d → d < 10 := fun digit =>
    (Text.exists_zero_of_digitValue? digit).choose_spec.2.2
  induction grouped with
  | last digit => simpa using small digit
  | next digit _ ih | mark digit _ ih => exact List.forall_mem_cons.mpr ⟨small digit, ih⟩

theorem not_white (grouped : Grouped cs ds) : ∀ c ∈ cs, Text.isWhiteSpace c = false := by
  induction grouped with
  | last digit => simpa using Text.not_white_of_digitValue? digit
  | next digit _ ih => exact List.forall_mem_cons.mpr ⟨Text.not_white_of_digitValue? digit, ih⟩
  | mark digit _ ih =>
    exact List.forall_mem_cons.mpr
      ⟨Text.not_white_of_digitValue? digit, List.forall_mem_cons.mpr ⟨by decide, ih⟩⟩

theorem ne_nil (grouped : Grouped cs ds) : ds ≠ [] := by cases grouped <;> simp

theorem dropGroupMarks_eq (grouped : Grouped cs ds) (previous : Char) :
    dropGroupMarks previous (cs.map plainDigit) = some (ds.map asciiDigit) := by
  have step : ∀ {c d} (previous : Char) (rest : List Char), digitValue? c = some d →
      dropGroupMarks previous (plainDigit c :: rest) = (dropGroupMarks (plainDigit c) rest).map
        (asciiDigit d :: ·) := by
    intro c d previous rest digit
    have plain : isAsciiDigit (plainDigit c) = true := by
      rw [isAsciiDigit_plainDigit, digit, Option.isSome_some]
    have other : plainDigit c ≠ '_' := fun same => by simp [same, isAsciiDigit] at plain
    rw [dropGroupMarks, if_neg other, if_neg (by simp [plain]), plainDigit_of_some digit]
  induction grouped generalizing previous with
  | @last c d digit =>
    have other : plainDigit c ≠ '_' := fun same => by
      have plain := isAsciiDigit_plainDigit (c := c)
      simp [same, digit, isAsciiDigit] at plain
    rw [List.map_singleton, step previous [] digit]
    simp [dropGroupMarks, other]
  | @next c d cs ds digit _ ih =>
    rw [List.map_cons, step previous _ digit, ih]
    rfl
  | @mark c d cs ds digit _ ih =>
    have plain : isAsciiDigit (plainDigit c) = true := by
      rw [isAsciiDigit_plainDigit, digit, Option.isSome_some]
    have own : plainDigit '_' = '_' := by decide
    rw [List.map_cons, List.map_cons, own, step previous _ digit, dropGroupMarks, if_pos rfl,
      if_pos plain, ih]
    rfl

end Grouped

/-- What is left of a row of characters without its underscores tells the row: if it is digits, the
    row is digits with single underscores between them, and an underscore may stand before them only
    if a digit does. -/
theorem grouped_of_dropGroupMarks {previous : Char} {cs out : List Char}
    (read : dropGroupMarks previous (cs.map plainDigit) = some out) (digits : Digits out) :
    (cs = [] ∧ out = [] ∧ previous ≠ '_') ∨ ∃ ds, out = ds.map asciiDigit ∧
      (Grouped cs ds ∨ ∃ cs', cs = '_' :: cs' ∧ isAsciiDigit previous = true ∧ Grouped cs' ds) := by
  induction cs generalizing previous out with
  | nil =>
    rw [List.map_nil, dropGroupMarks] at read
    split at read
    · cases read
    · exact .inl ⟨rfl, (Option.some.inj read).symm, ‹_›⟩
  | cons c cs ih =>
    right
    rw [List.map_cons, dropGroupMarks] at read
    by_cases mark : plainDigit c = '_'
    · obtain rfl := eq_of_plainDigit mark (by decide)
      rw [if_pos mark] at read
      split at read
      · rename_i before
        rw [mark] at read
        rcases ih read digits with ⟨-, -, other⟩ | ⟨ds, rfl, grouped | ⟨cs', -, digit, -⟩⟩
        · exact absurd rfl other
        · exact ⟨ds, rfl, .inr ⟨cs, rfl, before, grouped⟩⟩
        · exact absurd digit (by decide)
      · cases read
    · rw [if_neg mark] at read
      split at read
      · cases read
      · obtain ⟨out', read', rfl⟩ := Option.map_eq_some_iff.mp read
        have plain : isAsciiDigit (plainDigit c) = true := digits _ (List.mem_cons_self ..)
        rw [isAsciiDigit_plainDigit] at plain
        obtain ⟨d, digit⟩ := Option.isSome_iff_exists.mp plain
        rw [plainDigit_of_some digit]
        rcases ih read' (fun x member => digits x (List.mem_cons_of_mem _ member)) with
          ⟨rfl, rfl, -⟩ | ⟨ds, rfl, grouped | ⟨cs', rfl, -, grouped⟩⟩
        · exact ⟨[d], rfl, .inl (.last digit)⟩
        · exact ⟨d :: ds, rfl, .inl (.next digit grouped)⟩
        · exact ⟨d :: ds, rfl, .inl (.mark digit grouped)⟩

theorem natOfDigits_map_asciiDigit {ds : List Nat} (small : ∀ d ∈ ds, d < 10) :
    natOfDigits (ds.map asciiDigit) = decimalValue ds := by
  rw [natOfDigits, decimalValue, List.foldl_map]
  refine List.foldl_ext _ _ _ fun n d member => ?_
  rw [(asciiDigit_eq (small d member)).2]

section signs
variable {sign cs digits : List Char} {negative : Bool}

theorem mem_signs_iff : (sign, negative) ∈ signs ↔
    sign = [] ∧ negative = false ∨ sign = ['+'] ∧ negative = false ∨ sign = ['-'] ∧
    negative = true := by
  simp [signs]

theorem not_white_of_sign (signed : (sign, negative) ∈ signs) : ∀ c ∈ sign, Text.isWhiteSpace c =
    false := by
  rcases mem_signs_iff.mp signed with ⟨rfl, -⟩ | ⟨rfl, -⟩ | ⟨rfl, -⟩
  · nofun
  · exact List.forall_mem_singleton.mpr (by decide)
  · exact List.forall_mem_singleton.mpr (by decide)

theorem splitSign_eq (signed : (sign, negative) ∈ signs) (plain : Digits digits)
    (some : digits ≠ []) : splitSign (sign ++ digits) = (negative, digits) := by
  obtain ⟨c, rest, rfl⟩ := List.exists_cons_of_ne_nil some
  have digit := plain c (List.mem_cons_self ..)
  rcases mem_signs_iff.mp signed with ⟨rfl, rfl⟩ | ⟨rfl, rfl⟩ | ⟨rfl, rfl⟩
  · have minus : c ≠ '-' := by rintro rfl; exact absurd digit (by decide)
    have plus : c ≠ '+' := by rintro rfl; exact absurd digit (by decide)
    simp [splitSign, minus, plus]
  · rfl
  · rfl

theorem exists_sign_of_splitSign (split : splitSign cs = (negative, digits)) :
    ∃ sign, (sign, negative) ∈ signs ∧ cs = sign ++ digits := by
  unfold splitSign at split
  split at split <;> cases split
  · exact ⟨['-'], by decide, rfl⟩
  · exact ⟨['+'], by decide, rfl⟩
  · exact ⟨[], by decide, rfl⟩

theorem dropGroupMarks_sign (signed : (sign, negative) ∈ signs) {body : List Char} {ds : List Nat}
    (grouped : Grouped body ds) :
    dropGroupMarks ' ' ((sign ++ body).map plainDigit) = some (sign ++ ds.map asciiDigit) := by
  have step : ∀ c ∈ ['+', '-'], dropGroupMarks ' ' (([c] ++ body).map plainDigit) =
      some ([c] ++ ds.map asciiDigit) := by
    intro c member
    have own : plainDigit c = c ∧ c ≠ '_' := by
      rcases List.mem_pair.mp member with rfl | rfl
      · exact ⟨by decide, by decide⟩
      · exact ⟨by decide, by decide⟩
    rw [List.map_append, List.map_singleton, own.1, List.singleton_append, dropGroupMarks,
      if_neg own.2, grouped.dropGroupMarks_eq]
    rfl
  rcases mem_signs_iff.mp signed with ⟨rfl, rfl⟩ | ⟨rfl, rfl⟩ | ⟨rfl, rfl⟩
  · exact grouped.dropGroupMarks_eq ' '
  · exact step '+' (by decide)
  · exact step '-' (by decide)

theorem exists_body_of_dropGroupMarks (signed : (sign, negative) ∈ signs)
    (read : dropGroupMarks ' ' (cs.map plainDigit) = some (sign ++ digits)) :
    ∃ body previous, cs = sign ++ body ∧ isAsciiDigit previous = false ∧
      dropGroupMarks previous (body.map plainDigit) = some digits := by
  have apart : ∀ c ∈ ['+', '-'], isAsciiDigit c = false := by
    intro c member
    rcases List.mem_pair.mp member with rfl | rfl
    · decide
    · decide
  have step : ∀ c ∈ ['+', '-'], dropGroupMarks ' ' (cs.map plainDigit) = some (c :: digits) →
      ∃ body, cs = c :: body ∧ dropGroupMarks c (body.map plainDigit) = some digits := by
    intro c member read
    cases cs with
    | nil => cases read
    | cons d body =>
      rw [List.map_cons, dropGroupMarks] at read
      split at read
      · cases read
      · split at read
        · cases read
        · obtain ⟨rest, read', same⟩ := Option.map_eq_some_iff.mp read
          obtain ⟨head, rfl⟩ := List.cons.inj same
          rw [head] at read'
          exact ⟨body, by rw [eq_of_plainDigit head (apart c member)], read'⟩
  rcases mem_signs_iff.mp signed with ⟨rfl, rfl⟩ | ⟨rfl, rfl⟩ | ⟨rfl, rfl⟩
  · exact ⟨cs, ' ', rfl, by decide, read⟩
  · obtain ⟨body, rfl, read'⟩ := step '+' (by decide) read
    exact ⟨body, '+', rfl, by decide, read'⟩
  · obtain ⟨body, rfl, read'⟩ := step '-' (by decide) read
    exact ⟨body, '-', rfl, by decide, read'⟩

theorem integer?_iff {n : Int} :
    integer? cs = some n ↔ ∃ sign digits negative, (sign, negative) ∈ signs ∧ cs = sign ++ digits ∧
    digits ≠ [] ∧
      Digits digits ∧ digits.length ≤ maxIntegerDigits ∧
      n = if negative then -(natOfDigits digits : Int) else natOfDigits digits := by
  constructor
  · intro valued
    unfold integer? at valued
    cases split : splitSign cs with
    | mk negative digits =>
      rw [split] at valued
      dsimp only at valued
      split at valued
      · cases valued
      · rename_i accepted
        simp only [Bool.or_eq_true, Bool.not_eq_true', List.isEmpty_iff, decide_eq_true_eq, not_or,
          Bool.not_eq_false, List.all_eq_true, Nat.not_lt] at accepted
        obtain ⟨sign, signed, rfl⟩ := exists_sign_of_splitSign split
        exact ⟨sign, digits, negative, signed, rfl, accepted.1.1, accepted.1.2, accepted.2,
          (Option.some.inj valued).symm⟩
  · rintro ⟨sign, digits, negative, signed, rfl, some, plain, few, rfl⟩
    unfold integer?
    rw [splitSign_eq signed plain some]
    simp [some, List.all_eq_true.mpr plain, few]

end signs

theorem readInteger?_iff {s : String} {n : Int} : readInteger? s = some n ↔ Spells s n := by
  constructor
  · intro read
    obtain ⟨out, dropped, valued⟩ := Option.bind_eq_some_iff.mp read
    obtain ⟨before, after, split, front, back⟩ := Text.exists_blanks Text.isWhiteSpace s.toList
    generalize Text.trimBoth Text.isWhiteSpace s.toList = cs at dropped split
    obtain ⟨sign, digits, negative, signed, rfl, some, plain, few, rfl⟩ := integer?_iff.mp valued
    obtain ⟨body, previous, rfl, other, marks⟩ := exists_body_of_dropGroupMarks signed dropped
    rcases grouped_of_dropGroupMarks marks plain
      with ⟨-, none, -⟩ | ⟨ds, rfl, grouped | ⟨_, -, digit, -⟩⟩
    · exact absurd none some
    · rw [List.length_map] at few
      rw [natOfDigits_map_asciiDigit grouped.digits_lt]
      exact ⟨before, sign, body, after, ds, negative, split, front, back, signed, grouped, few, rfl⟩
    · rw [other] at digit
      cases digit
  · rintro ⟨before, sign, body, after, ds, negative, split, front, back, signed, grouped, few, rfl⟩
    have plain : ∀ c ∈ sign ++ body, Text.isWhiteSpace c = false := by
      intro c member
      rcases List.mem_append.mp member with member | member
      · exact not_white_of_sign signed c member
      · exact grouped.not_white c member
    have some : sign ++ body ≠ [] := by cases grouped <;> simp
    have trimmed : Text.trimBoth Text.isWhiteSpace s.toList = sign ++ body := by
      rw [split]
      exact Text.trimBoth_eq some front back (fun c head => plain c (List.mem_of_mem_head? head))
        (fun c last => plain c (List.mem_of_getLast? last))
    have digits : Digits (ds.map asciiDigit) := by
      intro c member
      obtain ⟨d, inside, rfl⟩ := List.mem_map.mp member
      exact (asciiDigit_eq (grouped.digits_lt d inside)).1
    rw [readInteger?, trimmed, dropGroupMarks_sign signed grouped,
      ← natOfDigits_map_asciiDigit grouped.digits_lt]
    exact integer?_iff.mpr ⟨sign, _, negative, signed, rfl, by
      simpa using grouped.ne_nil, digits, by simpa using few, rfl⟩

-- Digits of other scripts count, and so do single underscores between digits.
example : readInteger? " +1_٤\t" = some 14 := by decide +kernel

end Number
end PageLayers
