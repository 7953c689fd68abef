import PageLayers.Json.Basic
import PageLayers.Number.Reading

/-!
Reading JSON text. Beyond the standard, the words `NaN`, `Infinity` and `-Infinity` are numbers, and
text may follow neither a leading byte order mark nor an unescaped control character. A member that
is written twice counts with its last value. A whole number of too many digits is an error of its
own kind, and so are lists and objects that lie too deep within each other; of several errors the
first one in the text counts.
-/

namespace PageLayers.Json

inductive ReadError
  | malformed
  | integerTooLong
  | tooDeep
  deriving DecidableEq, Repr

def isSpace (c : Char) : Bool := c = ' ' || c = '\t' || c = '\n' || c = '\r'

def skipSpace (cs : List Char) : List Char := cs.dropWhile isSpace

def hexValue? (c : Char) : Option Nat :=
  if '0' ≤ c && c ≤ '9' then some (c.toNat - '0'.toNat)
  else if 'a' ≤ c && c ≤ 'f' then some (c.toNat - 'a'.toNat + 10)
  else if 'A' ≤ c && c ≤ 'F' then some (c.toNat - 'A'.toNat + 10)
  else none

def codeUnit? (a b c d : Char) : Option Nat := do
  some (((← hexValue? a) * 16 + (← hexValue? b)) * 256 + (← hexValue? c) * 16 + (← hexValue? d))

def escape? : Char → Option Nat
  | '"' => some 0x22
  | '\\' => some 0x5C
  | '/' => some 0x2F
  | 'b' => some 0x08
  | 'f' => some 0x0C
  | 'n' => some 0x0A
  | 'r' => some 0x0D
  | 't' => some 0x09
  | _ => none

def stringUnits : List Char → Option (List Nat × List Char)
  | [] => none
  | '"' :: rest => some ([], rest)
  | '\\' :: 'u' :: a :: b :: c :: d :: rest => do
    let unit ← codeUnit? a b c d
    let (units, after) ← stringUnits rest
    some (unit :: units, after)
  | '\\' :: e :: rest => do
    let point ← escape? e
    let (units, after) ← stringUnits rest
    some (point :: units, after)
  | c :: rest => do
    if c.toNat < 0x20 || c = '\\' then none
    let (units, after) ← stringUnits rest
    some (c.toNat :: units, after)

/-- The character of a code point. A surrogate alone is none and becomes the replacement character.
    -/
def charOfUnit (n : Nat) : Char := if n.isValidChar then Char.ofNat n else '\uFFFD'

def joinSurrogates : List Nat → List Char
  | [] => []
  | [n] => [charOfUnit n]
  | high :: low :: rest =>
    if 0xD800 ≤ high && high < 0xDC00 && 0xDC00 ≤ low && low < 0xE000 then
      Char.ofNat (0x10000 + (high - 0xD800) * 0x400 + (low - 0xDC00)) :: joinSurrogates rest
    else charOfUnit high :: joinSurrogates (low :: rest)

def readText (cs : List Char) : Except ReadError (String × List Char) :=
  match stringUnits cs with
  | some (units, rest) => .ok (.ofList (joinSurrogates units), rest)
  | none => .error .malformed

def wholeDigits : List Char → List Char × List Char
  | '0' :: rest => (['0'], rest)
  | cs => (cs.takeWhile Number.isAsciiDigit, cs.dropWhile Number.isAsciiDigit)

def fractionDigits (cs : List Char) : Option (List Char) × List Char :=
  match cs with
  | '.' :: rest =>
    let digits := rest.takeWhile Number.isAsciiDigit
    if digits.isEmpty then (none, cs) else (some digits, rest.dropWhile Number.isAsciiDigit)
  | _ => (none, cs)

def exponentDigits (cs : List Char) : Option Int × List Char :=
  match cs with
  | c :: rest =>
    let (negative, afterSign) := Number.splitSign rest
    let digits := afterSign.takeWhile Number.isAsciiDigit
    if (c = 'e' || c = 'E') && !digits.isEmpty then
      let n : Int := Number.natOfDigits digits
      (some (if negative then -n else n), afterSign.dropWhile Number.isAsciiDigit)
    else (none, cs)
  | [] => (none, cs)

def readNumber (negative : Bool) (cs : List Char) : Except ReadError (Json × List Char) :=
  let (whole, afterWhole) := wholeDigits cs
  let (fraction, afterFraction) := fractionDigits afterWhole
  let (exponent, rest) := exponentDigits afterFraction
  if whole.isEmpty then .error .malformed
  else match fraction, exponent with
    | none, none =>
      if Number.maxIntegerDigits < whole.length then .error .integerTooLong
      else
        let n : Int := Number.natOfDigits whole
        .ok (.int (if negative then -n else n), rest)
    | _, _ =>
      let digits := fraction.getD []
      .ok (.float (.ofDecimal negative (Number.natOfDigits (whole ++ digits))
        (exponent.getD 0 - digits.length)), rest)

def dropWord? (word : List Char) (cs : List Char) : Option (List Char) :=
  if word.isPrefixOf cs then some (cs.drop word.length) else none

def wordValues : List (List Char × Json) := [
  ("null".toList, .null), ("true".toList, .bool true), ("false".toList, .bool false),
  ("NaN".toList, .float .nan), ("Infinity".toList, .float (.infinite false)),
  ("-Infinity".toList, .float (.infinite true))]

def readScalar (cs : List Char) : Except ReadError (Json × List Char) :=
  match wordValues.findSome? fun (word, value) => (dropWord? word cs).map (value, ·) with
  | some found => .ok found
  | none =>
    match cs with
    | '-' :: rest => readNumber true rest
    | _ => readNumber false cs

/-- The number of lists and objects within each other that a text may have. -/
def depthLimit : Nat := 990

mutual
/-- A value at the front of the text; `fuel` bounds the depth and the number of values, and `room`
    is the number of lists and objects that may still be opened within each other. A value takes at
    most two steps. -/
def readValue : Nat → Nat → List Char → Except ReadError (Json × List Char)
  | 0, _, _ => .error .malformed
  | fuel + 1, room, cs =>
    match cs with
    | '"' :: rest => do
      let (s, after) ← readText rest
      .ok (.text s, after)
    | '[' :: rest =>
      if room = 0 then .error .tooDeep
      else match skipSpace rest with
        | ']' :: after => .ok (.array [], after)
        | start => do
          let (xs, after) ← readElements fuel (room - 1) start
          .ok (.array xs, after)
    | '{' :: rest =>
      if room = 0 then .error .tooDeep
      else match skipSpace rest with
        | '}' :: after => .ok (.object [], after)
        | start => do
          let (ms, after) ← readMembers fuel (room - 1) start
          .ok (.object (Entries.ofList ms), after)
    | _ => readScalar cs

def readElements : Nat → Nat → List Char → Except ReadError (List Json × List Char)
  | 0, _, _ => .error .malformed
  | fuel + 1, room, cs => do
    let (x, rest) ← readValue fuel room cs
    match skipSpace rest with
    | ']' :: after => .ok ([x], after)
    | ',' :: next => do
      let (xs, after) ← readElements fuel room (skipSpace next)
      .ok (x :: xs, after)
    | _ => .error .malformed

def readMembers : Nat → Nat → List Char → Except ReadError (List (String × Json) × List Char)
  | 0, _, _ => .error .malformed
  | fuel + 1, room, cs =>
    match cs with
    | '"' :: start => do
      let (key, rest) ← readText start
      match skipSpace rest with
      | ':' :: next => do
        let (value, rest) ← readValue fuel room (skipSpace next)
        match skipSpace rest with
        | '}' :: after => .ok ([(key, value)], after)
        | ',' :: next => do
          let (ms, after) ← readMembers fuel room (skipSpace next)
          .ok ((key, value) :: ms, after)
        | _ => .error .malformed
      | _ => .error .malformed
    | _ => .error .malformed
end

/-- The value that the characters are the JSON text of, up to white space around it, with room for
    so many lists and objects within each other. -/
def readWithin (room : Nat) (cs : List Char) : Except ReadError Json := do
  let (value, rest) ← readValue (2 * cs.length + 2) room (skipSpace cs)
  if (skipSpace rest).isEmpty then .ok value else .error .malformed

def read (s : String) : Except ReadError Json := readWithin depthLimit s.toList

end PageLayers.Json
