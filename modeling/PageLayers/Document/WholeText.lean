import PageLayers.Document.Fault
import PageLayers.Number.Reading
import PageLayers.Text.Blank

/-!
Whole numbers that a document writes as texts. Besides the plain form there may be white space
around the number, a plus sign, zeros in front, underscores between digits and a fraction of zeros;
without these the plain form has to be left. Behind zeros a minus sign may still come.
-/

namespace PageLayers.Document

def hasLooseMarks : List Char → Bool
  | [] => false
  | ['_'] => true
  | '_' :: '_' :: _ => true
  | _ :: cs => hasLooseMarks cs

def splitMinus : List Char → Bool × List Char
  | '-' :: cs => (true, cs)
  | cs => (false, cs)

/-- The number in its plain form: perhaps a minus sign, and digits, the first of which is a zero
    only if it is the only one. -/
def plainWhole? (cs : List Char) : Option Int :=
  let (negative, digits) := splitMinus cs
  if digits.isEmpty || !digits.all Number.isAsciiDigit then none
  else if (digits.head? = some '0' && digits ≠ ['0']) || Number.maxIntegerDigits < digits.length
    then none
  else some (if negative then -Number.natOfDigits digits else Number.natOfDigits digits)

def startsTooLong (cs : List Char) : Bool :=
  let digits := (splitMinus cs).2.takeWhile Number.isAsciiDigit
  digits.head? ≠ some '0' && Number.maxIntegerDigits < digits.length

/-- What comes after zeros, the last of which, or of the underscores among them, is `last`. It is
    kept if nothing or a point follows. -/
def afterZero? (last : Char) : List Char → Option (List Char)
  | [] => some [last]
  | c :: cs =>
    if c = '0' || c = '_' then afterZero? c cs
    else if c = '.' then some (last :: c :: cs)
    else if Number.isAsciiDigit c || c = '-' then some (c :: cs)
    else none

def withoutZeros? : List Char → Option (List Char)
  | [] => none
  | c :: cs =>
    if c = '0' then afterZero? c cs
    else if Number.isAsciiDigit c || c = '-' then some (c :: cs)
    else none

/-- The same where a sign may come first. A plus sign is dropped and cannot be followed by a minus
    sign. -/
def withoutPadding? : List Char → Option (List Char)
  | '+' :: '-' :: _ => none
  | '+' :: cs => withoutZeros? cs
  | '-' :: cs => (withoutZeros? cs).map ('-' :: ·)
  | cs => withoutZeros? cs

def withoutFraction? (cs : List Char) : Option (List Char) :=
  match cs.dropWhile (· ≠ '.') with
  | [] => some cs
  | _ :: fraction =>
    if fraction.isEmpty || !fraction.all (· = '0') then none else some (cs.takeWhile (· ≠ '.'))

def withoutMarks? (cs : List Char) : Option (List Char) :=
  if cs.head? = some '_' || hasLooseMarks cs then none else some (cs.filter (· ≠ '_'))

def lenientWhole? (cs : List Char) : Option Int := do
  let unpadded ← withoutPadding? (Text.trimBoth Text.isWhiteSpace cs)
  plainWhole? (← withoutMarks? (← withoutFraction? unpadded))

def wholeText (s : String) : Checked Int :=
  if startsTooLong s.toList then .fault .intTooLong
  else match lenientWhole? s.toList with
    | some n => .ok n
    | none => .fault .intParsing

end PageLayers.Document
