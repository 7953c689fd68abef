import PageLayers.Calendar.Date
import PageLayers.Number.Reading

/-!
Reading a day from a date, or a date and a time, in the forms of ISO 8601: with or without hyphens
and colons, by month or by week, with any character between date and time, and with an offset. The
time and the offset do not move the day, but they have to be possible ones.
-/

namespace PageLayers.Calendar

def digits? (count : Nat) (cs : List Char) : Option (Nat × List Char) :=
  let row := cs.take count
  if row.length = count && row.all Number.isAsciiDigit then
    some (Number.natOfDigits row, cs.drop count)
  else none

/-- Where the date ends. Where its form leaves two readings, a hyphen before digits parts date and
    time, and a week without hyphens has a weekday if that leaves an even number of digits for the
    time. -/
def dateLength (cs : List Char) : Nat :=
  let charAt (i : Nat) : Char := cs.getD i '\x00'
  let isDigitAt (i : Nat) : Bool := Number.isAsciiDigit (charAt i)
  if cs.length = 7 then 7
  else if charAt 4 = '-' then
    if charAt 5 = 'W' then
      if charAt 8 = '-' then if isDigitAt 10 then 8 else 10 else 8
    else 10
  else if charAt 4 = 'W' then
    let stop := 7 + ((cs.drop 7).takeWhile Number.isAsciiDigit).length
    if stop < 9 then stop else if stop % 2 = 0 then 7 else 8
  else 8

def expect? (wanted : Bool) (c : Char) : List Char → Option (List Char)
  | d :: rest => if wanted then if d = c then some rest else none else some (d :: rest)
  | [] => if wanted then none else some []

def date? (length : Nat) (cs : List Char) : Option Date := do
  let (year, rest) ← digits? 4 cs
  let hyphens := rest.head? = some '-'
  let rest ← expect? hyphens '-' rest
  match rest with
  | 'W' :: rest => do
    let (week, rest) ← digits? 2 rest
    if cs.length - rest.length < length then
      let rest ← expect? hyphens '-' rest
      let (weekday, _) ← digits? 1 rest
      dateOfWeek? year week weekday
    else dateOfWeek? year week 1
  | _ => do
    let (month, rest) ← digits? 2 rest
    let rest ← expect? hyphens '-' rest
    let (day, _) ← digits? 2 rest
    some ⟨year, month, day⟩

structure ClockReading where
  fields : List Nat
  millionths : Nat
  isComplete : Bool
  deriving Repr

/-- The fraction of a second that ends a time after the given fields. Digits past the sixth are
    dropped. -/
def clockFraction? (next : Char) (fields : List Nat) (cs : List Char) : Option ClockReading :=
  let row := cs.take 6
  if row.all Number.isAsciiDigit then
    let after := (cs.drop 6).dropWhile Number.isAsciiDigit
    some ⟨fields, Number.natOfDigits row * Nat.pow 10 (6 - row.length), after.headD next = '\x00'⟩
  else none

/-- A time, of which `fields` have been read and up to `more + 1` fields are to come; `colons` tells
    whether colons part them, once that is known, and `next` is the character after the time. -/
def clockFrom? (next : Char) (fields : List Nat) (colons : Option Bool) : Nat → List Char →
    Option ClockReading
  | more, cs => do
    let (field, rest) ← digits? 2 cs
    let fields := fields ++ [field]
    match rest with
    | [] => some ⟨fields, 0, next = '\x00'⟩
    | [c] => some ⟨fields, 0, c = '\x00'⟩
    | c :: rest =>
      let colons := colons.getD (c = ':')
      if c = '.' || c = ',' then clockFraction? next fields rest
      else if colons && c ≠ ':' then none
      else
        let start := if colons then rest else c :: rest
        match more with
        | 0 => clockFraction? next fields start
        | more + 1 => clockFrom? next fields (some colons) more start

def clock? (next : Char) (cs : List Char) : Option ClockReading := clockFrom? next [] none 2 cs

def ClockReading.isTimeOfDay (r : ClockReading) : Bool :=
  r.fields.getD 0 0 < 24 && r.fields.getD 1 0 < 60 && r.fields.getD 2 0 < 60

def ClockReading.isOffset (r : ClockReading) : Bool :=
  let seconds := r.fields.getD 0 0 * 3600 + r.fields.getD 1 0 * 60 + r.fields.getD 2 0
  r.isComplete && seconds * 1000000 + r.millionths < 86400 * 1000000

def isOffsetMark (c : Char) : Bool := c = '+' || c = '-' || c = 'Z'

def isTime (cs : List Char) : Bool :=
  let zone := cs.dropWhile (!isOffsetMark ·)
  match clock? (zone.headD '\x00') (cs.takeWhile (!isOffsetMark ·)) with
  | none => false
  | some time =>
    time.isTimeOfDay && match zone with
      | [] => time.isComplete
      | 'Z' :: rest => rest.headD '\x00' = '\x00'
      | _ :: rest =>
        match clock? '\x00' rest with
        | none => false
        | some offset => offset.isOffset

/-- The characters of a text, each as often as it has bytes in UTF-8. Lengths are counted and parts
    are cut this way, so that a character outside ASCII takes the place of several. -/
def places (s : String) : List Char := s.toList.flatMap fun c => List.replicate c.utf8Size c

def readDay? (s : String) : Option Date := do
  let cs := places s
  if cs.length < 7 then none
  let length := dateLength cs
  let date ← date? length cs
  let after := cs.drop length
  let time := after.drop (after.headD ' ').utf8Size
  if date.isValid && (after.isEmpty || isTime time) then some date else none

end PageLayers.Calendar
