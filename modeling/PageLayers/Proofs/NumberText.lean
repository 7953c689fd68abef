import Mathlib.Algebra.Group.Nat.Defs
import Mathlib.Data.List.Basic
import Mathlib.Data.List.TakeWhile
import PageLayers.Json.Printer
import PageLayers.Json.Reader
import PageLayers.Proofs.ShortestDecimal

/-!
Numbers in JSON text read back. A whole number is its digits. A double is written with the shortest
decimal that reads back as it, in one of three forms, and the zeros that a form puts before or after
the digits do not change what they stand for.
-/

namespace PageLayers

namespace Number
open Binary64

def Digits (cs : List Char) : Prop := ∀ c ∈ cs, isAsciiDigit c = true

def NoDigit (cs : List Char) : Prop := ∀ c ∈ cs.head?, isAsciiDigit c = false

theorem NoDigit.cons {c : Char} {cs : List Char} (other : isAsciiDigit c = false) :
    NoDigit (c :: cs) := by
  rintro d ⟨⟩
  exact other

theorem natOfDigits_eq (ds : List Char) : natOfDigits ds = Nat.ofDigitChars 10 ds 0 := rfl

theorem natOfDigits_toDigits (n : Nat) : natOfDigits (Nat.toDigits 10 n) = n :=
  Nat.ofDigitChars_ten_toDigits

theorem natOfDigits_append_zeros (ds : List Char) (zeros : Nat) :
    natOfDigits (ds ++ List.replicate zeros '0') = natOfDigits ds * 10 ^ zeros := by
  rw [natOfDigits_eq, Nat.ofDigitChars_append, Nat.ofDigitChars_replicate_zero, Nat.mul_comm]
  rfl

theorem natOfDigits_zeros_append (zeros : Nat) (ds : List Char) :
    natOfDigits (List.replicate zeros '0' ++ ds) = natOfDigits ds := by
  rw [natOfDigits_eq, Nat.ofDigitChars_append, Nat.ofDigitChars_replicate_zero, Nat.mul_zero]
  rfl

theorem digits_toDigits (n : Nat) : Digits (Nat.toDigits 10 n) := by
  intro c member
  have digit := Nat.isDigit_of_mem_toDigits (by decide) (by decide) member
  simpa [Char.isDigit, isAsciiDigit, Char.le_def] using digit

theorem digits_zeros (zeros : Nat) : Digits (List.replicate zeros '0') := by
  intro c member
  rw [List.eq_of_mem_replicate member]
  decide

theorem Digits.append {cs ds : List Char} (first : Digits cs) (second : Digits ds) :
    Digits (cs ++ ds) := by
  intro c member
  rcases List.mem_append.mp member with member | member
  · exact first c member
  · exact second c member

section span
variable {ds rest : List Char}

theorem takeWhile_digits (digits : Digits ds) (stop : NoDigit rest) :
    (ds ++ rest).takeWhile isAsciiDigit = ds := by
  rw [List.takeWhile_append_of_pos digits]
  cases rest with
  | nil => simp
  | cons c rest => simp [stop c rfl]

theorem dropWhile_digits (digits : Digits ds) (stop : NoDigit rest) :
    (ds ++ rest).dropWhile isAsciiDigit = rest := by
  rw [List.dropWhile_append_of_pos digits]
  cases rest with
  | nil => rfl
  | cons c rest => simp [stop c rfl]

end span

theorem toDigits_head {n : Nat} (positive : 0 < n) : (Nat.toDigits 10 n).head? ≠ some '0' := by
  induction n using Nat.strongRecOn with
  | ind n ih =>
    rcases Nat.lt_or_ge n 10 with small | large
    · rw [Nat.toDigits_of_lt_base small, List.head?_cons, Ne, Option.some.injEq,
        Nat.digitChar_eq_zero]
      omega
    · rw [Nat.toDigits_of_base_le (by decide) large,
        List.head?_append_of_ne_nil _ Nat.toDigits_ne_nil]
      exact ih (n / 10) (by omega) (by omega)

section significant
variable {n : Nat}

theorem exists_zeros_of_significantDigits (n : Nat) :
    ∃ zeros, Nat.toDigits 10 n = significantDigits n ++ List.replicate zeros '0' := by
  have zeros : ∀ c ∈ (Nat.toDigits 10 n).reverse.takeWhile (· = '0'), c = '0' :=
    fun c member => by simpa using List.mem_takeWhile_imp member
  refine ⟨((Nat.toDigits 10 n).reverse.takeWhile (· = '0')).length, ?_⟩
  rw [significantDigits, ← List.reverse_replicate, ← List.eq_replicate_of_mem zeros,
    ← List.reverse_append, List.takeWhile_append_dropWhile, List.reverse_reverse]

theorem significantDigits_ne_nil (positive : 0 < n) : significantDigits n ≠ [] := by
  intro empty
  obtain ⟨zeros, whole⟩ := exists_zeros_of_significantDigits n
  rw [empty, List.nil_append] at whole
  have value := natOfDigits_toDigits n
  rw [whole, ← List.append_nil (List.replicate _ _), natOfDigits_zeros_append] at value
  rw [← value] at positive
  exact absurd positive (by decide)

theorem significantDigits_head (positive : 0 < n) : (significantDigits n).head? ≠ some '0' := by
  obtain ⟨zeros, whole⟩ := exists_zeros_of_significantDigits n
  have head := toDigits_head positive
  rwa [whole, List.head?_append_of_ne_nil _ (significantDigits_ne_nil positive)] at head

theorem natOfDigits_significantDigits_pos (positive : 0 < n) :
    0 < natOfDigits (significantDigits n) := by
  obtain ⟨zeros, whole⟩ := exists_zeros_of_significantDigits n
  have value := natOfDigits_toDigits n
  rw [whole, natOfDigits_append_zeros] at value
  exact Nat.pos_of_mul_pos_right (value ▸ positive)

theorem digits_significantDigits (n : Nat) : Digits (significantDigits n) := by
  obtain ⟨zeros, whole⟩ := exists_zeros_of_significantDigits n
  intro c member
  exact digits_toDigits n c (whole ▸ List.mem_append_left _ member)

end significant

theorem toList_twoDigits (n : Nat) : ∃ zeros, (twoDigits n).toList = List.replicate zeros '0' ++
    Nat.toDigits 10 n := by
  have digits : (toString n).toList = Nat.toDigits 10 n := Nat.toList_repr
  unfold twoDigits
  split
  · refine ⟨1, ?_⟩
    change ("0" ++ toString n).toList = _
    rw [String.toList_append, digits]
    rfl
  · exact ⟨0, digits⟩

theorem digits_twoDigits (n : Nat) : Digits (twoDigits n).toList := by
  obtain ⟨zeros, shape⟩ := toList_twoDigits n
  exact shape ▸ (digits_zeros zeros).append (digits_toDigits n)

theorem natOfDigits_twoDigits (n : Nat) : natOfDigits (twoDigits n).toList = n := by
  obtain ⟨zeros, shape⟩ := toList_twoDigits n
  rw [shape, natOfDigits_zeros_append, natOfDigits_toDigits]

theorem twoDigits_ne_nil (n : Nat) : (twoDigits n).toList ≠ [] := by
  obtain ⟨zeros, shape⟩ := toList_twoDigits n
  simp [shape, Nat.toDigits_ne_nil]

end Number

namespace Json
open Number

section number
variable {ds rest : List Char}

/-- Whether nothing at the front could belong to a number, so that a number before the text ends
    there. -/
def EndsNumber (cs : List Char) : Prop := ∀ c ∈ cs.head?, isAsciiDigit c = false ∧ c ≠ '.' ∧
    c ≠ 'e' ∧ c ≠ 'E'

theorem EndsNumber.nil : EndsNumber [] := fun _ front => by cases front

theorem EndsNumber.cons {c : Char} (other : isAsciiDigit c = false ∧ c ≠ '.' ∧ c ≠ 'e' ∧ c ≠ 'E') :
    EndsNumber (c :: rest) := by
  rintro d ⟨⟩
  exact other

theorem EndsNumber.noDigit (ends : EndsNumber rest) : NoDigit rest := fun c front =>
    (ends c front).1

theorem wholeDigits_append (digits : Digits ds) (leads : ds.head? ≠ some '0')
    (stop : NoDigit rest) : wholeDigits (ds ++ rest) = (ds, rest) := by
  rw [wholeDigits, takeWhile_digits digits stop, dropWhile_digits digits stop]
  intro tail front
  cases ds with
  | nil =>
    rw [List.nil_append] at front
    exact absurd (stop '0' (by rw [front]; rfl)) (by decide)
  | cons c ds => exact leads (congrArg some (List.cons.inj front).1)

theorem fractionDigits_point (digits : Digits ds) (some : ds ≠ []) (stop : NoDigit rest) :
    fractionDigits ('.' :: (ds ++ rest)) = (.some ds, rest) := by
  simp [fractionDigits, takeWhile_digits digits stop, dropWhile_digits digits stop, some]

theorem fractionDigits_none (point : rest.head? ≠ some '.') :
    fractionDigits rest = (none, rest) := by
  rw [fractionDigits]
  rintro tail rfl
  exact point rfl

theorem exponentDigits_sign (negative : Bool) (digits : Digits ds) (some : ds ≠ [])
    (stop : NoDigit rest) :
    exponentDigits ('e' :: (if negative then '-' else '+') :: (ds ++ rest)) =
      (.some (if negative then -natOfDigits ds else natOfDigits ds), rest) := by
  cases negative <;>
    simp [exponentDigits, splitSign, takeWhile_digits digits stop, dropWhile_digits digits stop,
      some]

theorem EndsNumber.exponentDigits (ends : EndsNumber rest) :
    exponentDigits rest = (none, rest) := by
  cases rest with
  | nil => rfl
  | cons c rest =>
    obtain ⟨-, -, small, large⟩ := ends c rfl
    simp [Json.exponentDigits, small, large]

theorem EndsNumber.fractionDigits (ends : EndsNumber rest) :
    fractionDigits rest = (none, rest) := by
  refine fractionDigits_none fun point => ?_
  exact (ends '.' point).2.1 rfl

theorem readNumber_eq {negative : Bool} {cs whole afterWhole afterFraction : List Char}
    {fraction : Option (List Char)}
    {exponent : Option Int} (wholeIs : wholeDigits cs = (whole, afterWhole)) (digits : whole ≠ [])
    (fractionIs : fractionDigits afterWhole = (fraction, afterFraction))
    (exponentIs : exponentDigits afterFraction = (exponent, rest))
    (float : fraction ≠ none ∨ exponent ≠ none) :
    readNumber negative cs =
      .ok (.float (.ofDecimal negative (natOfDigits (whole ++ fraction.getD []))
      (exponent.getD 0 - (fraction.getD []).length)), rest) := by
  simp only [readNumber, wholeIs, fractionIs, exponentIs, List.isEmpty_iff, digits, if_false]
  cases fraction with
  | some fraction => rfl
  | none =>
    cases exponent with
    | some exponent => rfl
    | none => simp at float

theorem readNumber_below (negative : Bool) (zeros : Nat) (digits : Digits ds) (some : ds ≠ [])
    (ends : EndsNumber rest) :
    readNumber negative ('0' :: '.' :: (List.replicate zeros '0' ++ ds ++ rest)) =
      .ok (.float (.ofDecimal negative (natOfDigits ds) (-(zeros + ds.length : Int))), rest) := by
  have fraction := fractionDigits_point ((digits_zeros zeros).append digits)
    (by simp [some]) ends.noDigit
  have value : natOfDigits (['0'] ++ (List.replicate zeros '0' ++ ds)) = natOfDigits ds := by
    rw [← List.append_assoc]
    exact natOfDigits_zeros_append (zeros + 1) ds
  have whole : wholeDigits ('0' :: '.' :: (List.replicate zeros '0' ++ ds ++ rest)) =
    (['0'], '.' :: (List.replicate zeros '0' ++ ds ++ rest)) := rfl
  rw [readNumber_eq whole (by decide) fraction ends.exponentDigits (.inl (by simp)),
    Option.getD_some, value]
  simp

theorem readNumber_point (negative : Bool) {whole : List Char} (wholeDigits : Digits whole)
    (positive : whole ≠ []) (leads : whole.head? ≠ some '0') (digits : Digits ds) (some : ds ≠ [])
    (ends : EndsNumber rest) :
    readNumber negative (whole ++ '.' :: (ds ++ rest)) =
      .ok (.float (.ofDecimal negative (natOfDigits (whole ++ ds)) (-(ds.length : Int))),
        rest) := by
  have stop : NoDigit ('.' :: (ds ++ rest)) := .cons (by decide)
  rw [readNumber_eq (wholeDigits_append wholeDigits leads stop) positive
    (fractionDigits_point digits some ends.noDigit)
    ends.exponentDigits (.inl (by simp))]
  simp

theorem readNumber_split (negative : Bool) {count : Nat} (places : 0 < count)
    (more : count < ds.length) (digits : Digits ds)
    (leads : ds.head? ≠ some '0') (ends : EndsNumber rest) :
    readNumber negative (ds.take count ++ '.' :: (ds.drop count ++ rest)) =
      .ok (.float (.ofDecimal negative (natOfDigits ds) (count - ds.length)), rest) := by
  have front : ds.take count ≠ [] := by
    intro empty
    have length := congrArg List.length empty
    rw [List.length_take, List.length_nil] at length
    omega
  have behind : ds.drop count ≠ [] := by simp [more]
  have head : (ds.take count).head? ≠ some '0' := by rwa [List.head?_take, if_neg (by omega)]
  have place : -((ds.drop count).length : Int) = count - ds.length := by
    rw [List.length_drop]
    omega
  rw [readNumber_point negative (fun c member => digits c (List.mem_of_mem_take member)) front head
    (fun c member => digits c (List.mem_of_mem_drop member)) behind ends,
      List.take_append_drop, place]

theorem readNumber_filled (negative : Bool) (zeros : Nat) (digits : Digits ds)
    (leads : ds.head? ≠ some '0') (positive : 0 < natOfDigits ds) (ends : EndsNumber rest) :
    readNumber negative (ds ++ List.replicate zeros '0' ++ '.' :: (['0'] ++ rest)) =
      .ok (.float (.ofDecimal negative (natOfDigits ds) zeros), rest) := by
  have some : ds ≠ [] := by
    rintro rfl
    exact absurd positive (by decide)
  have head : (ds ++ List.replicate zeros '0').head? ≠ Option.some '0' := by
    rwa [List.head?_append_of_ne_nil _ some]
  have value : natOfDigits (ds ++ List.replicate zeros '0' ++ ['0']) = natOfDigits ds *
      10 ^ (zeros + 1) := by
    rw [List.append_assoc, ← List.replicate_succ', natOfDigits_append_zeros]
  have zero : Digits ['0'] := digits_zeros 1
  have place : -((['0'].length : Nat) : Int) + (zeros + 1 : Nat) = zeros := by
    rw [List.length_singleton]
    omega
  rw [readNumber_point negative (digits.append (digits_zeros zeros)) (by simp [some]) head zero
    (by decide) ends, value,
    Binary64.ofDecimal_shift negative positive, place]

theorem readNumber_padded (negative : Bool) {count : Nat} (places : 0 < count) (digits : Digits ds)
    (leads : ds.head? ≠ some '0') (positive : 0 < natOfDigits ds) (ends : EndsNumber rest) :
    readNumber negative ((ds ++ List.replicate (count - ds.length) '0').take count ++
        '.' :: ((if ((ds ++ List.replicate (count - ds.length) '0').drop count).isEmpty then ['0']
          else (ds ++ List.replicate (count - ds.length) '0').drop count) ++ rest)) =
      .ok (.float (.ofDecimal negative (natOfDigits ds) (count - ds.length)), rest) := by
  rcases Nat.lt_or_ge count ds.length with more | few
  · have padded : ds ++ List.replicate (count - ds.length) '0' = ds := by
      simp [Nat.sub_eq_zero_of_le (Nat.le_of_lt more)]
    have behind : ¬ (ds.drop count).isEmpty = true := by simp [more]
    rw [padded, if_neg behind]
    exact readNumber_split negative places more digits leads ends
  · have length : (ds ++ List.replicate (count - ds.length) '0').length = count := by
      rw [List.length_append, List.length_replicate]
      omega
    have place : (count : Int) - ds.length = (count - ds.length : Nat) := by omega
    rw [List.take_of_length_le (Nat.le_of_eq length), List.drop_of_length_le (Nat.le_of_eq length),
      if_pos List.isEmpty_nil, place]
    exact readNumber_filled negative (count - ds.length) digits leads positive ends

theorem readNumber_exponent (negative : Bool) (leading : Int) {c : Char} (digits : Digits (c :: ds))
    (leads : c ≠ '0') (ends : EndsNumber rest) :
    readNumber negative (c :: ((if ds.isEmpty then [] else '.' :: ds) ++
        'e' :: (if leading < 0 then '-' else '+') :: ((twoDigits leading.natAbs).toList ++ rest))) =
      .ok (.float (.ofDecimal negative (natOfDigits (c :: ds)) (leading - ds.length)), rest) := by
  have exponent := exponentDigits_sign (decide (leading < 0)) (digits_twoDigits leading.natAbs)
    (twoDigits_ne_nil _) ends.noDigit
  simp only [decide_eq_true_eq, natOfDigits_twoDigits] at exponent
  have value : (if leading < 0 then -(leading.natAbs : Int) else leading.natAbs) = leading := by
    split <;> omega
  rw [value] at exponent
  generalize (if leading < 0 then '-' else '+') :: ((twoDigits leading.natAbs).toList ++ rest) =
    after at *
  have first : Digits [c] := fun d member =>
    digits d (List.mem_cons.mpr (.inl (List.mem_singleton.mp member)))
  have head : [c].head? ≠ some '0' := fun zero => leads (Option.some.inj zero)
  have letter : NoDigit ('e' :: after) := .cons (by decide)
  have point : NoDigit ('.' :: (ds ++ 'e' :: after)) := .cons (by decide)
  cases ds with
  | nil =>
    have fraction : fractionDigits ('e' :: after) = (none, 'e' :: after) :=
      fractionDigits_none (by simp)
    exact readNumber_eq (wholeDigits_append first head letter) (List.cons_ne_nil _ _) fraction
      exponent (.inr (by simp))
  | cons d ds =>
    have others : Digits (d :: ds) := fun e member => digits e (List.mem_cons_of_mem _ member)
    exact readNumber_eq (wholeDigits_append first head point) (List.cons_ne_nil _ _)
      (fractionDigits_point others (List.cons_ne_nil _ _) letter) exponent (.inr (by simp))

variable {d : Decimal}

/-- What the significant digits of a decimal stand for in the place of their last one. -/
theorem ofDecimal_significant (negative : Bool) (positive : 0 < d.digits) :
    .ofDecimal negative (natOfDigits (significantDigits d.digits))
        (d.exponent + (Nat.toDigits 10 d.digits).length - (significantDigits d.digits).length) =
      Binary64.ofDecimal negative d.digits d.exponent := by
  obtain ⟨zeros, whole⟩ := exists_zeros_of_significantDigits d.digits
  have value := natOfDigits_toDigits d.digits
  have length := congrArg List.length whole
  rw [whole, natOfDigits_append_zeros] at value
  rw [List.length_append, List.length_replicate] at length
  have place :
      d.exponent + (Nat.toDigits 10 d.digits).length - (significantDigits d.digits).length =
        d.exponent + zeros := by
    omega
  conv_rhs =>
    rw [← value, Binary64.ofDecimal_shift negative (natOfDigits_significantDigits_pos positive)]
  rw [place]

theorem readNumber_text (negative : Bool) (positive : 0 < d.digits) (ends : EndsNumber rest) :
    readNumber negative (d.text.toList ++ rest) =
      .ok (.float (.ofDecimal negative d.digits d.exponent), rest) := by
  have some := significantDigits_ne_nil positive
  have head := significantDigits_head positive
  have value := natOfDigits_significantDigits_pos positive
  have digits := digits_significantDigits d.digits
  rw [← ofDecimal_significant negative positive]
  unfold Decimal.text
  dsimp only
  generalize significantDigits d.digits = sig at *
  generalize place : d.exponent + (Nat.toDigits 10 d.digits).length - 1 = leading
  have last : d.exponent + (Nat.toDigits 10 d.digits).length - sig.length = leading + 1 -
    sig.length := by omega
  rw [last]
  by_cases positional : -4 ≤ leading ∧ leading < 16
  · rw [if_pos (by simpa using positional)]
    by_cases below : leading < 0
    · have exponent : -(((-leading - 1).toNat : Int) + sig.length) = leading + 1 - sig.length := by
        omega
      have start : "0.".toList = ['0', '.'] := by decide
      rw [if_pos below, String.toList_append, start, String.toList_ofList, ← exponent]
      exact readNumber_below negative _ digits some ends
    · rw [if_neg below]
      have point : ".".toList = ['.'] := by decide
      have zero : "0".toList = ['0'] := by decide
      simp only [String.toList_append, String.toList_ofList, point, apply_ite String.toList, zero]
      have places : ((leading.toNat + 1 : Nat) : Int) = leading + 1 := by omega
      rw [← places]
      simpa using readNumber_padded negative (Nat.succ_pos leading.toNat) digits head value ends
  · rw [if_neg (by simpa using positional)]
    obtain ⟨c, tail, rfl⟩ := List.exists_cons_of_ne_nil some
    have letter : "e".toList = ['e'] ∧ ".".toList = ['.'] := by decide
    have sign : (if leading < 0 then "-" else "+").toList = [if leading < 0 then '-' else '+'] := by
      split <;> rfl
    have lone : (c :: tail).length ≤ 1 ↔ tail.isEmpty = true := by simp
    have first : c ≠ '0' := fun zero => head (congrArg Option.some zero)
    have place : leading + 1 - (c :: tail).length = leading - tail.length := by
      rw [List.length_cons]
      omega
    rw [place, String.toList_append, String.toList_append, sign]
    simpa [apply_ite String.toList, lone, letter]
      using readNumber_exponent negative leading digits first ends

theorem readNumber_magnitudeText (negative : Bool) {units : Nat}
    (double : Binary64.IsDouble (.finite false units)) (ends : EndsNumber rest) :
    readNumber negative ((magnitudeText units).toList ++ rest) =
      .ok (.float (.finite negative units), rest) := by
  unfold magnitudeText
  split_ifs with zero
  · have written : "0.0".toList = ['0', '.', '0'] := by decide
    have read := readNumber_below negative 0 (digits_zeros 1) (by decide) ends
    rw [written, zero]
    have value : natOfDigits (List.replicate 1 '0') = 0 := rfl
    rw [value, Binary64.ofDecimal, if_pos rfl] at read
    exact read
  · have reads := shortest_reads_back (Nat.pos_of_ne_zero zero) double
    have positive : 0 < (shortest units).digits := by
      rcases Nat.eq_zero_or_pos (shortest units).digits with none | positive
      · rw [none] at reads
        cases reads
        exact absurd rfl zero
      · exact positive
    rw [readNumber_text negative positive ends, ofDecimal_sign positive reads]

theorem readNumber_toDigits (negative : Bool) {n : Nat}
    (few : (Nat.toDigits 10 n).length ≤ maxIntegerDigits) (ends : EndsNumber rest) :
    readNumber negative (Nat.toDigits 10 n ++ rest) =
      .ok (.int (if negative then -n else n), rest) := by
  have whole : wholeDigits (Nat.toDigits 10 n ++ rest) = (Nat.toDigits 10 n, rest) := by
    rcases Nat.eq_zero_or_pos n with rfl | positive
    · rfl
    · exact wholeDigits_append (digits_toDigits n) (toDigits_head positive) ends.noDigit
  simp [readNumber, whole, ends.fractionDigits, ends.exponentDigits, Nat.toDigits_ne_nil,
    Nat.not_lt.mpr few, natOfDigits_toDigits]

end number
end Json
end PageLayers
