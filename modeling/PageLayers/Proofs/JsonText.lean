import PageLayers.Proofs.Entries
import PageLayers.Proofs.NumberText

/-!
JSON text reads back as the value that it was written for. A text within quotes does, whatever
characters it has: one above the basic plane is written as two code units, which are joined again.
So do all values that are no deeper than is read.
-/

namespace PageLayers.Json
open Number

theorem toNat_range (c : Char) : c.toNat < 0xD800 ∨ 0xDFFF < c.toNat ∧ c.toNat < 0x110000 := c.valid

def unitsOf (c : Char) : List Nat :=
  if c.toNat < 0x10000 then [c.toNat]
  else [0xD800 + (c.toNat - 0x10000) / 0x400, 0xDC00 + (c.toNat - 0x10000) % 0x400]

theorem hexValue?_hexDigit : ∀ n < 16, hexValue? (hexDigit n) = some n := by decide

theorem codeUnit?_digits {n : Nat} (small : n < 0x10000) :
    codeUnit? (hexDigit (n / 4096 % 16)) (hexDigit (n / 256 % 16)) (hexDigit (n / 16 % 16))
      (hexDigit (n % 16)) = some n := by
  have digit : ∀ k, hexValue? (hexDigit (k % 16)) = some (k % 16) := fun k =>
    hexValue?_hexDigit _ (Nat.mod_lt _ (by decide))
  simp only [codeUnit?, digit, Option.bind_eq_bind, Option.bind_some, Option.some.injEq]
  omega

theorem stringUnits_unitEscape {n : Nat} (small : n < 0x10000) (rest : List Char) :
    stringUnits (unitEscape n ++ rest) = (stringUnits rest).map fun (units, after) =>
      (n :: units, after) := by
  simp only [unitEscape, List.cons_append, List.nil_append, stringUnits, codeUnit?_digits small]
  cases stringUnits rest <;> rfl

theorem stringUnits_plain {c : Char} (visible : 0x20 ≤ c.toNat) (notQuote : c ≠ '"')
    (notBackslash : c ≠ '\\') (rest : List Char) :
    stringUnits (c :: rest) = (stringUnits rest).map fun (units, after) =>
      (c.toNat :: units, after) := by
  rw [stringUnits]
  · rw [if_neg (by simpa using ⟨by omega, notBackslash⟩)]
    cases stringUnits rest <;> rfl
  all_goals simp [notQuote, notBackslash]

theorem stringUnits_escape {e : Char} {point : Nat} (stands : escape? e = some point)
    (rest : List Char) :
    stringUnits ('\\' :: e :: rest) = (stringUnits rest).map fun (units, after) =>
      (point :: units, after) := by
  have notUnit : e ≠ 'u' := by
    rintro rfl
    cases stands
  rw [stringUnits]
  · rw [stands]
    cases stringUnits rest <;> rfl
  all_goals simp [notUnit]

theorem unitsOf_basic {c : Char} (basic : c.toNat < 0x10000) : unitsOf c = [c.toNat] := if_pos basic

theorem unitsOf_beyond {c : Char} (beyond : ¬ c.toNat < 0x10000) :
    unitsOf c = [0xD800 + (c.toNat - 0x10000) / 0x400, 0xDC00 + (c.toNat - 0x10000) % 0x400] :=
      if_neg beyond

theorem stringUnits_quoteChar (c : Char) (rest : List Char) :
    stringUnits (quoteChar c ++ rest) = (stringUnits rest).map fun (units, after) =>
      (unitsOf c ++ units, after) := by
  have valid := toNat_range c
  by_cases quote : c = '"'
  · subst quote
    exact stringUnits_escape rfl rest
  by_cases backslash : c = '\\'
  · subst backslash
    exact stringUnits_escape rfl rest
  by_cases newline : c = '\n'
  · subst newline
    exact stringUnits_escape rfl rest
  by_cases return_ : c = '\r'
  · subst return_
    exact stringUnits_escape rfl rest
  by_cases tab : c = '\t'
  · subst tab
    exact stringUnits_escape rfl rest
  rw [quoteChar, if_neg quote, if_neg backslash, if_neg newline, if_neg return_, if_neg tab]
  by_cases backspace : c.toNat = 0x08
  · rw [if_pos backspace, unitsOf_basic (by omega), backspace]
    exact stringUnits_escape rfl rest
  rw [if_neg backspace]
  by_cases feed : c.toNat = 0x0C
  · rw [if_pos feed, unitsOf_basic (by omega), feed]
    exact stringUnits_escape rfl rest
  rw [if_neg feed]
  by_cases control : c.toNat < 0x20
  · rw [if_pos control, unitsOf_basic (by omega)]
    exact stringUnits_unitEscape (by omega) rest
  rw [if_neg control]
  by_cases visible : c.toNat < 0x7F
  · rw [if_pos visible, unitsOf_basic (by omega)]
    exact stringUnits_plain (by omega) quote backslash rest
  rw [if_neg visible]
  by_cases basic : c.toNat < 0x10000
  · rw [if_pos basic, unitsOf_basic basic]
    exact stringUnits_unitEscape basic rest
  · rw [if_neg basic, unitsOf_beyond basic, List.append_assoc, stringUnits_unitEscape (by omega),
      stringUnits_unitEscape (by omega)]
    cases stringUnits rest <;> rfl

theorem stringUnits_quoted (cs rest : List Char) :
    stringUnits (cs.flatMap quoteChar ++ '"' :: rest) = some (cs.flatMap unitsOf, rest) := by
  induction cs with
  | nil => rfl
  | cons c cs ih =>
    rw [List.flatMap_cons, List.append_assoc, stringUnits_quoteChar, ih]
    rfl

theorem charOfUnit_toNat (c : Char) : charOfUnit c.toNat = c := by
  have valid : c.toNat.isValidChar := c.valid
  rw [charOfUnit, if_pos valid, Char.ofNat_toNat]

theorem joinSurrogates_cons {n : Nat} (single : n < 0xD800 ∨ 0xDFFF < n) (units : List Nat) :
    joinSurrogates (n :: units) = charOfUnit n :: joinSurrogates units := by
  cases units with
  | nil => rfl
  | cons low units =>
    rw [joinSurrogates, if_neg (by simp; omega)]

theorem joinSurrogates_pair {n : Nat} (small : n < 0x100000) (units : List Nat) :
    joinSurrogates ((0xD800 + n / 0x400) :: (0xDC00 + n % 0x400) :: units) =
      Char.ofNat (0x10000 + n) :: joinSurrogates units := by
  have whole : 0x10000 + (0xD800 + n / 0x400 - 0xD800) * 0x400 + (0xDC00 + n % 0x400 - 0xDC00) =
    0x10000 + n := by omega
  rw [joinSurrogates, if_pos (by simp; omega), whole]

theorem joinSurrogates_unitsOf (cs : List Char) : joinSurrogates (cs.flatMap unitsOf) = cs := by
  induction cs with
  | nil => rfl
  | cons c cs ih =>
    have valid := toNat_range c
    rw [List.flatMap_cons]
    by_cases basic : c.toNat < 0x10000
    · rw [unitsOf_basic basic, List.singleton_append, joinSurrogates_cons (by omega),
        charOfUnit_toNat, ih]
    · have whole : 0x10000 + (c.toNat - 0x10000) = c.toNat := by omega
      rw [unitsOf_beyond basic, List.cons_append, List.singleton_append,
        joinSurrogates_pair (by omega), whole, Char.ofNat_toNat, ih]

theorem readText_quoted (s : String) (rest : List Char) :
    readText (s.toList.flatMap quoteChar ++ '"' :: rest) = .ok (s, rest) := by
  rw [readText, stringUnits_quoted]
  simp only [joinSurrogates_unitsOf, String.ofList_toList]

theorem readValue_quote (fuel room : Nat) (s : String) (rest : List Char) :
    readValue (fuel + 1) room (quote s ++ rest) = .ok (.text s, rest) := by
  have quoted : quote s ++ rest = '"' :: (s.toList.flatMap quoteChar ++ '"' :: rest) := by
    simp [quote]
  rw [quoted, readValue, readText_quoted]
  rfl

section scalar
variable {c : Char} {cs word : List Char} {read : Json × List Char}

theorem dropWord?_cons (w : Char) :
    dropWord? (w :: word) (c :: cs) = if w = c then dropWord? word cs else none := by
  by_cases same : w = c <;> simp [dropWord?, List.isPrefixOf, same]

def startsScalar (c : Char) : Bool := isAsciiDigit c || ['n', 't', 'f', 'N', 'I', '-'].contains c

theorem exists_start {entry : List Char × Json} (value : entry ∈ wordValues) :
    ∃ w w' tail, entry.1 = w :: w' :: tail ∧ startsScalar w = true ∧ isAsciiDigit w = false ∧
      isAsciiDigit w' = false := by
  have words : ∀ entry ∈ wordValues, 2 ≤ entry.1.length ∧ (entry.1.take 1).all startsScalar = true ∧
      (entry.1.take 2).all (fun c => !isAsciiDigit c) = true := by decide
  obtain ⟨long, starts, digits⟩ := words entry value
  rcases shape : entry.1 with _ | ⟨w, _ | ⟨w', tail⟩⟩
  · simp [shape] at long
  · simp [shape] at long
  · simp only [shape, List.take_succ_cons, List.take_zero, List.all_cons, List.all_nil,
      Bool.and_true, Bool.and_eq_true, Bool.not_eq_true'] at starts digits
    exact ⟨w, w', tail, rfl, starts, digits⟩

theorem readNumber_ok_start {negative : Bool} (ok : readNumber negative cs = .ok read) :
    ∃ c tail, cs = c :: tail ∧ isAsciiDigit c = true := by
  have digits : (wholeDigits cs).1 ≠ [] := by
    intro none
    simp [readNumber, none] at ok
  unfold wholeDigits at digits
  split at digits
  · exact ⟨'0', _, rfl, by decide⟩
  · cases cs with
    | nil => simp at digits
    | cons c cs =>
      refine ⟨c, cs, rfl, ?_⟩
      by_contra other
      simp [other] at digits

theorem readScalar_ok_start (ok : readScalar cs = .ok read) : ∃ c tail, cs = c :: tail ∧
    startsScalar c = true := by
  unfold readScalar at ok
  split at ok
  · rename_i found
    obtain ⟨entry, value, taken⟩ := List.exists_of_findSome?_eq_some found
    obtain ⟨w, w', tail, shape, starts, -⟩ := exists_start value
    cases cs with
    | nil => simp [shape, dropWord?] at taken
    | cons c cs =>
      refine ⟨c, cs, rfl, ?_⟩
      by_cases same : w = c
      · exact same ▸ starts
      · simp [shape, dropWord?_cons, same] at taken
  · split at ok
    · exact ⟨'-', _, rfl, by decide⟩
    · obtain ⟨c, tail, shape, digit⟩ := readNumber_ok_start ok
      exact ⟨c, tail, shape, by simp [startsScalar, digit]⟩

theorem readScalar_of_number (ok : readNumber false cs = .ok read) : readScalar cs = .ok read := by
  obtain ⟨c, tail, rfl, digit⟩ := readNumber_ok_start ok
  have none : ∀ entry ∈ wordValues, dropWord? entry.1 (c :: tail) = none := by
    intro entry value
    obtain ⟨w, w', word, shape, -, other, -⟩ := exists_start value
    have apart : w ≠ c := by
      rintro rfl
      simp [digit] at other
    rw [shape, dropWord?_cons, if_neg apart]
  have unsigned : c ≠ '-' := by
    rintro rfl
    exact absurd digit (by decide)
  unfold readScalar
  split
  · rename_i found
    obtain ⟨entry, value, taken⟩ := List.exists_of_findSome?_eq_some found
    simp [none entry value] at taken
  · simp [unsigned, ok]

theorem readScalar_of_negative (ok : readNumber true cs = .ok read) :
    readScalar ('-' :: cs) = .ok read := by
  obtain ⟨c, tail, rfl, digit⟩ := readNumber_ok_start ok
  have none : ∀ entry ∈ wordValues, dropWord? entry.1 ('-' :: c :: tail) = none := by
    intro entry value
    obtain ⟨w, w', word, shape, -, -, other⟩ := exists_start value
    have apart : w' ≠ c := by
      rintro rfl
      simp [digit] at other
    rw [shape, dropWord?_cons, dropWord?_cons, if_neg apart, ite_self]
  unfold readScalar
  split
  · rename_i found
    obtain ⟨entry, value, taken⟩ := List.exists_of_findSome?_eq_some found
    simp [none entry value] at taken
  · simp [ok]

theorem readValue_of_readScalar (fuel room : Nat) (ok : readScalar cs = .ok read) :
    readValue (fuel + 1) room cs = .ok read := by
  obtain ⟨c, tail, rfl, starts⟩ := readScalar_ok_start ok
  rw [readValue]
  · exact ok
  all_goals
    rintro tail ⟨⟩
    exact absurd starts (by decide)

theorem readValue_ok_start {fuel room : Nat} (ok : readValue fuel room cs = .ok read) :
    ∃ c tail, cs = c :: tail ∧ isSpace c = false ∧ c ≠ ']' := by
  cases fuel with
  | zero => simp [readValue] at ok
  | succ fuel =>
    unfold readValue at ok
    split at ok
    · exact ⟨_, _, rfl, by decide, by decide⟩
    · exact ⟨_, _, rfl, by decide, by decide⟩
    · exact ⟨_, _, rfl, by decide, by decide⟩
    · obtain ⟨c, tail, rfl, starts⟩ := readScalar_ok_start ok
      have apart : ∀ d, startsScalar d = false → c ≠ d := by
        rintro d other rfl
        simp [starts] at other
      refine ⟨c, tail, rfl, ?_, apart ']' (by decide)⟩
      simp [isSpace, apart ' ' (by decide), apart '\t' (by decide), apart '\n' (by decide),
        apart '\r' (by decide)]

end scalar

/-- The values that are read back from their texts, where there is room for so many lists and
    objects within each other. Numbers are doubles and whole numbers that are not too long, and a
    name comes once in an object. -/
inductive Legible : Nat → Json → Prop
  | null {room : Nat} : Legible room null
  | bool {room : Nat} (b : Bool) : Legible room (bool b)
  | int {room : Nat} {n : Int} (few : (Nat.toDigits 10 n.natAbs).length ≤ maxIntegerDigits) :
      Legible room (int n)
  | float {room : Nat} {x : Binary64} (double : x.IsDouble) : Legible room (float x)
  | text {room : Nat} (s : String) : Legible room (text s)
  | array {room : Nat} {xs : List Json} (inside : ∀ x ∈ xs, Legible room x) :
      Legible (room + 1) (array xs)
  | object {room : Nat} {ms : List (String × Json)} (once : (ms.map (·.1)).Nodup)
      (inside : ∀ m ∈ ms, Legible room m.2) :
    Legible (room + 1) (object ms)

theorem Legible.texts {room : Nat} (ss : List String) :
    Legible (room + 1) (Json.array (ss.map Json.text)) := by
  refine .array fun j member => ?_
  obtain ⟨s, -, rfl⟩ := List.mem_map.mp member
  exact .text s

section value
variable {rest : List Char}

theorem readScalar_int {n : Int} (few : (Nat.toDigits 10 n.natAbs).length ≤ maxIntegerDigits)
    (ends : EndsNumber rest) : readScalar (renderChars (.int n) ++ rest) = .ok (.int n, rest) := by
  rw [renderChars, Int.toString_eq_repr, Int.repr_eq_if]
  split_ifs with sign
  · have same : n.natAbs = n.toNat := by omega
    rw [same] at few
    have value : (n.toNat : Int) = n := Int.toNat_of_nonneg sign
    rw [Nat.toList_repr, readScalar_of_number (readNumber_toDigits false few ends),
      if_neg Bool.false_ne_true, value]
  · have same : n.natAbs = (-n).toNat := by omega
    have minus : "-".toList = ['-'] := by decide
    rw [same] at few
    have value : -((-n).toNat : Int) = n := by omega
    rw [String.toList_append, minus, Nat.toList_repr, List.singleton_append, List.cons_append,
      readScalar_of_negative (readNumber_toDigits true few ends), if_pos rfl, value]

theorem readScalar_float {x : Binary64} (double : x.IsDouble) (ends : EndsNumber rest) :
    readScalar (renderChars (.float x) ++ rest) = .ok (.float x, rest) := by
  rw [renderChars, floatChars]
  cases x with
  | nan => rfl
  | infinite negative => cases negative <;> rfl
  | finite negative units =>
    have number := fun negative => readNumber_magnitudeText negative double ends
    cases negative with
    | false =>
      rw [floatText, if_neg Bool.false_ne_true, String.empty_append]
      exact readScalar_of_number (number false)
    | true =>
      have minus : "-".toList = ['-'] := by decide
      rw [floatText, if_pos rfl, String.toList_append, minus, List.singleton_append,
        List.cons_append]
      exact readScalar_of_negative (number true)

theorem skipSpace_cons {c : Char} {cs : List Char} (start : isSpace c = false) :
    skipSpace (c :: cs) = c :: cs := by
  simp [skipSpace, start]

variable {fuel room : Nat} {cs after : List Char} {x : Json} {xs : List Json}
    {ms : List (String × Json)}

theorem readElements_ok_start (ok : readElements fuel room cs = .ok (xs, rest)) :
    ∃ c tail, cs = c :: tail ∧ isSpace c = false ∧ c ≠ ']' := by
  cases fuel with
  | zero => simp [readElements] at ok
  | succ fuel =>
    cases value : readValue fuel room cs with
    | error e => simp [readElements, value, bind, Except.bind] at ok
    | ok read => exact readValue_ok_start value

theorem readElements_last (value : readValue fuel room cs = .ok (x, ']' :: rest)) :
    readElements (fuel + 1) room cs = .ok ([x], rest) := by
  rw [readElements, value]
  rfl

theorem readElements_cons (value : readValue fuel room cs = .ok (x, ',' :: ' ' :: after))
    (others : readElements fuel room after = .ok (xs, rest)) : readElements (fuel + 1) room cs =
      .ok (x :: xs, rest) := by
  obtain ⟨c, tail, rfl, start, -⟩ := readElements_ok_start others
  have next : skipSpace (' ' :: c :: tail) = c :: tail := skipSpace_cons start
  rw [readElements, value]
  change (readElements fuel room (skipSpace (' ' :: c :: tail)) >>= _) = _
  rw [next, others]
  rfl

theorem readValue_array (elements : readElements fuel room cs = .ok (xs, rest)) :
    readValue (fuel + 1) (room + 1) ('[' :: cs) = .ok (.array xs, rest) := by
  obtain ⟨c, tail, rfl, start, opens⟩ := readElements_ok_start elements
  simp [readValue, skipSpace_cons start, opens, elements, bind, Except.bind]

theorem quote_append (k : String) (cs : List Char) : quote k ++ cs = '"' ::
    (k.toList.flatMap quoteChar ++ '"' :: cs) := by
  simp [quote]

theorem readMembers_ok_start (ok : readMembers fuel room cs = .ok (ms, rest)) : ∃ tail, cs = '"' ::
    tail := by
  cases fuel with
  | zero => simp [readMembers] at ok
  | succ fuel =>
    unfold readMembers at ok
    split at ok
    · exact ⟨_, rfl⟩
    · cases ok

theorem readMembers_last (k : String) (value : readValue fuel room cs = .ok (x, '}' :: rest)) :
    readMembers (fuel + 1) room (quote k ++ ':' :: ' ' :: cs) = .ok ([(k, x)], rest) := by
  obtain ⟨c, tail, rfl, start, -⟩ := readValue_ok_start value
  have next : skipSpace (' ' :: c :: tail) = c :: tail := skipSpace_cons start
  rw [quote_append, readMembers, readText_quoted]
  change (readValue fuel room (skipSpace (' ' :: c :: tail)) >>= _) = _
  rw [next, value]
  rfl

theorem readMembers_cons (k : String)
    (value : readValue fuel room cs = .ok (x, ',' :: ' ' :: after))
    (others : readMembers fuel room after = .ok (ms, rest)) :
    readMembers (fuel + 1) room (quote k ++ ':' :: ' ' :: cs) = .ok ((k, x) :: ms, rest) := by
  obtain ⟨c, tail, rfl, start, -⟩ := readValue_ok_start value
  obtain ⟨tail', rfl⟩ := readMembers_ok_start others
  have next : skipSpace (' ' :: c :: tail) = c :: tail := skipSpace_cons start
  rw [quote_append, readMembers, readText_quoted]
  change (readValue fuel room (skipSpace (' ' :: c :: tail)) >>= _) = _
  rw [next, value]
  change (readMembers fuel room ('"' :: tail') >>= _) = _
  rw [others]
  rfl

theorem readValue_object (members : readMembers fuel room cs = .ok (ms, rest)) :
    readValue (fuel + 1) (room + 1) ('{' :: cs) = .ok (.object (Entries.ofList ms), rest) := by
  obtain ⟨tail, rfl⟩ := readMembers_ok_start members
  have start : skipSpace ('"' :: tail) = '"' :: tail := skipSpace_cons (by decide)
  simp [readValue, start, members, bind, Except.bind]

end value

mutual
/-- A value is read back from its text, whatever follows it that does not go on with a number. -/
theorem readValue_renderChars : ∀ (j : Json) {fuel room : Nat} {rest : List Char}, Legible room j →
    2 * (renderChars j).length + 1 ≤ fuel → EndsNumber rest →
      readValue fuel room (renderChars j ++ rest) = .ok (j, rest)
  | j, 0, _, _ => fun _ enough => by omega
  | null, fuel + 1, room, rest => fun _ _ _ => readValue_of_readScalar fuel room rfl
  | bool b, fuel + 1, room, rest =>
    fun _ _ _ => readValue_of_readScalar fuel room (by cases b <;> rfl)
  | int n, fuel + 1, room, rest => fun legible _ ends => by
    cases legible with
    | int few => exact readValue_of_readScalar fuel room (readScalar_int few ends)
  | float x, fuel + 1, room, rest => fun legible _ ends => by
    cases legible with
    | float double => exact readValue_of_readScalar fuel room (readScalar_float double ends)
  | text s, fuel + 1, room, rest => fun _ _ _ => readValue_quote fuel room s rest
  | array [], fuel + 1, room, rest => fun legible _ _ => by
    cases legible
    rfl
  | array (x :: xs), fuel + 1, _, rest => fun legible enough _ => by
    cases legible with
    | @array room _ inside =>
      simp only [renderChars, List.length_cons, List.length_append] at enough
      have elements : readElements fuel room (renderElements (x :: xs) ++ ']' :: rest) =
        .ok (x :: xs, rest) :=
        readElements_renderElements x xs inside (by omega)
      rw [renderChars, List.cons_append, List.cons_append, List.append_assoc]
      exact readValue_array elements
  | object [], fuel + 1, room, rest => fun legible _ _ => by
    cases legible
    rfl
  | object ((k, v) :: ms), fuel + 1, _, rest => fun legible enough _ => by
    cases legible with
    | @object room _ once inside =>
      simp only [renderChars, List.length_cons, List.length_append] at enough
      have members : readMembers fuel room (renderMembers ((k, v) :: ms) ++ '}' :: rest) =
        .ok ((k, v) :: ms, rest) :=
        readMembers_renderMembers k v ms inside (by omega)
      have object := readValue_object members
      rw [Entries.ofList_eq_self once] at object
      rw [renderChars, List.cons_append, List.cons_append, List.append_assoc]
      exact object

theorem readElements_renderElements : ∀ (x : Json) (xs : List Json) {fuel room : Nat}
    {rest : List Char},
    (∀ y ∈ x :: xs, Legible room y) → 2 * (renderElements (x :: xs)).length + 2 ≤ fuel →
    readElements fuel room (renderElements (x :: xs) ++ ']' :: rest) = .ok (x :: xs, rest)
  | x, xs, 0, _, _ => fun _ enough => by omega
  | x, [], fuel + 1, room, rest => fun legible enough => by
    rw [renderElements] at enough ⊢
    have ends : EndsNumber (']' :: rest) := .cons (by decide)
    exact readElements_last (readValue_renderChars x (legible x List.mem_cons_self) (by omega) ends)
  | x, y :: ys, fuel + 1, room, rest => fun legible enough => by
    rw [renderElements] at enough ⊢
    · simp only [List.length_append, List.length_cons] at enough
      have ends : EndsNumber (',' :: ' ' :: (renderElements (y :: ys) ++ ']' :: rest)) :=
        .cons (by decide)
      rw [List.append_assoc]
      exact readElements_cons
        (readValue_renderChars x (legible x List.mem_cons_self) (by omega) ends)
        (readElements_renderElements y ys
          (fun z member => legible z (List.mem_cons_of_mem x member)) (by omega))
    all_goals exact List.cons_ne_nil _ _

theorem readMembers_renderMembers : ∀ (k : String) (v : Json) (ms : List (String × Json))
    {fuel room : Nat} {rest : List Char},
    (∀ m ∈ (k, v) :: ms, Legible room m.2) → 2 * (renderMembers ((k, v) :: ms)).length + 2 ≤ fuel →
    readMembers fuel room (renderMembers ((k, v) :: ms) ++ '}' :: rest) = .ok ((k, v) :: ms, rest)
  | k, v, ms, 0, _, _ => fun _ enough => by omega
  | k, v, [], fuel + 1, room, rest => fun legible enough => by
    rw [renderMembers] at enough ⊢
    simp only [List.length_append, List.length_cons] at enough
    have ends : EndsNumber ('}' :: rest) := .cons (by decide)
    rw [List.append_assoc]
    exact readMembers_last k
      (readValue_renderChars v (legible _ List.mem_cons_self) (by omega) ends)
  | k, v, (l, w) :: ms, fuel + 1, room, rest => fun legible enough => by
    rw [renderMembers] at enough ⊢
    · simp only [List.length_append, List.length_cons] at enough
      have ends : EndsNumber (',' :: ' ' :: (renderMembers ((l, w) :: ms) ++ '}' :: rest)) :=
        .cons (by decide)
      have others : readMembers fuel room (renderMembers ((l, w) :: ms) ++ '}' :: rest) =
        .ok ((l, w) :: ms, rest) :=
        readMembers_renderMembers l w ms (fun m member => legible m (List.mem_cons_of_mem _ member))
          (by omega)
      have value :
        readValue fuel room
          (renderChars v ++ ',' :: ' ' :: (renderMembers ((l, w) :: ms) ++ '}' :: rest)) =
            .ok (v, _) :=
        readValue_renderChars v (legible _ List.mem_cons_self) (by omega) ends
      simpa using readMembers_cons k value others
    all_goals exact List.cons_ne_nil _ _
end

theorem readWithin_renderChars {room : Nat} {j : Json} (legible : Legible room j) :
    readWithin room (renderChars j) = .ok j := by
  have value : readValue (2 * (renderChars j).length + 2) room (renderChars j ++ []) =
    .ok (j, []) :=
    readValue_renderChars j legible (by omega) .nil
  rw [List.append_nil] at value
  obtain ⟨c, tail, shape, start, -⟩ := readValue_ok_start value
  have skipped : skipSpace (renderChars j) = renderChars j := by rw [shape, skipSpace_cons start]
  rw [readWithin, skipped, value]
  rfl

end PageLayers.Json
