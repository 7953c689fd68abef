import PageLayers.Number.Binary64
import PageLayers.Text.Blank
import PageLayers.Text.Digit

/-!
Reading numbers from text. A stored value may be typed by hand, so that white space around it,
digits of any script and single underscores between digits are all accepted. A text that is no
number is `none`.
-/

namespace PageLayers.Number

def isAsciiDigit (c : Char) : Bool := '0' ≤ c && c ≤ '9'

def natOfDigits (digits : List Char) : Nat :=
  digits.foldl (fun n c => 10 * n + (c.toNat - '0'.toNat)) 0

def plainDigit (c : Char) : Char :=
  match Text.digitValue? c with
  | some d => Char.ofNat ('0'.toNat + d)
  | none => c

/-- Takes away the underscores of a text whose first character follows `previous`; none if one of
    them does not stand between two digits. -/
def dropGroupMarks (previous : Char) : List Char → Option (List Char)
  | [] => if previous = '_' then none else some []
  | c :: cs =>
    if c = '_' then
      if isAsciiDigit previous then dropGroupMarks c cs else none
    else if previous = '_' && !isAsciiDigit c then none
    else (dropGroupMarks c cs).map (c :: ·)

def splitSign : List Char → Bool × List Char
  | '-' :: cs => (true, cs)
  | '+' :: cs => (false, cs)
  | cs => (false, cs)

def exponent? : List Char → Option Int
  | [] => some 0
  | c :: cs =>
    let (negative, digits) := splitSign cs
    if (c = 'e' || c = 'E') && !digits.isEmpty && digits.all isAsciiDigit then
      some (if negative then -natOfDigits digits else natOfDigits digits)
    else none

def fraction? (cs : List Char) : Option (List Char × Int) :=
  match cs with
  | '.' :: rest =>
    (exponent? (rest.dropWhile isAsciiDigit)).map (rest.takeWhile isAsciiDigit, ·)
  | _ => (exponent? cs).map ([], ·)

def unsignedDecimal? (negative : Bool) (cs : List Char) : Option Binary64 := do
  let whole := cs.takeWhile isAsciiDigit
  let (fraction, exponent) ← fraction? (cs.dropWhile isAsciiDigit)
  if whole.isEmpty && fraction.isEmpty then none
  else some (.ofDecimal negative (natOfDigits (whole ++ fraction)) (exponent - fraction.length))

def float? (cs : List Char) : Option Binary64 :=
  let (negative, body) := splitSign cs
  let word := String.ofList (body.map Char.toLower)
  if word = "inf" || word = "infinity" then some (.infinite negative)
  else if word = "nan" then some .nan
  else unsignedDecimal? negative body

def readFloat? (s : String) : Option Binary64 := do
  let cs := (Text.trimBoth Text.isWhiteSpace s.toList).map plainDigit
  float? (← dropGroupMarks ' ' cs)

/-- The longest row of digits that is read as a whole number, and the longest that one is written
    in. -/
def maxIntegerDigits : Nat := 4300

@[irreducible] def isWritable (n : Int) : Bool := n.natAbs < Nat.pow 10 maxIntegerDigits

def integer? (cs : List Char) : Option Int :=
  let (negative, digits) := splitSign cs
  if digits.isEmpty || !digits.all isAsciiDigit || maxIntegerDigits < digits.length then none
  else some (if negative then -natOfDigits digits else natOfDigits digits)

def readInteger? (s : String) : Option Int := do
  let cs := (Text.trimBoth Text.isWhiteSpace s.toList).map plainDigit
  integer? (← dropGroupMarks ' ' cs)

end PageLayers.Number
