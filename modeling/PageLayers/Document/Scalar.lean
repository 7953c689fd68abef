import PageLayers.Document.WholeText
import PageLayers.Json.Basic

/-!
Checks of single values. They are lenient: a number may be written as a text, a truth value as a
number, and a whole number as a floating-point one without a fraction.
-/

namespace PageLayers.Document

abbrev Check (α : Type) := Json → Checked α

def anything : Check Json := .ok

def text : Check String
  | .text s => .ok s
  | _ => .fault .stringType

def wordBound : Int := 9223372036854775808

def fitsWord (n : Int) : Bool := -wordBound ≤ n && n < wordBound

/-- Whether a whole number has 64 bits and is not the least one. A number that is written as a
    floating-point one has to be such. -/
def fitsFloatWord (n : Int) : Bool := -wordBound < n && n < wordBound

def whole : Check Int
  | .int n => .ok n
  | .bool b => .ok (if b then 1 else 0)
  | .float (.finite s u) =>
    match (Binary64.finite s u).toInt? with
    | some n => if fitsFloatWord n then .ok n else .fault .intTooLong
    | none => .fault .intFromFloat
  | .float _ => .fault .finiteNumber
  | .text s => wholeText s
  | _ => .fault .intType

def wholeFrom (low : Nat) (j : Json) : Checked Nat :=
  (whole j).andThen fun n => if n < low then .fault .greaterThanEqual else .ok n.toNat

def positive (j : Json) : Checked Nat :=
  (whole j).andThen fun n => if n ≤ 0 then .fault .greaterThan else .ok n.toNat

/-- A floating-point number in a document text; underscores may part its characters. -/
def floatText (s : String) : Checked Binary64 :=
  match Number.float? (Text.trimBoth Text.isWhiteSpace s.toList) with
  | some x => .ok x
  | none =>
    if s.toList.head? = some '_' || hasLooseMarks s.toList then .fault .floatParsing
    else match Number.float? (s.toList.filter (· ≠ '_')) with
      | some x => .ok x
      | none => .fault .floatParsing

/-- A floating-point number. A whole number that rounds to an infinity is none. -/
def float : Check Binary64
  | .float x => .ok x
  | .int n =>
    match Binary64.ofInt n with
    | .infinite _ => .fault .floatType
    | x => .ok x
  | .bool b => .ok (.ofInt (if b then 1 else 0))
  | .text s => floatText s
  | _ => .fault .floatType

def trueWords : List String := ["true", "t", "yes", "y", "on", "1"]

def falseWords : List String := ["false", "f", "no", "n", "off", "0"]

def flagNumber (n : Int) : Checked Bool :=
  if n = 0 then .ok false else if n = 1 then .ok true else .fault .boolParsing

def flagText (s : String) : Checked Bool :=
  let word := s.map Char.toLower
  if trueWords.contains word then .ok true
  else if falseWords.contains word then .ok false
  else .fault .boolParsing

def flag : Check Bool
  | .bool b => .ok b
  | .int n => if fitsWord n then flagNumber n else .fault .boolType
  | .float x =>
    match x.toInt? with
    | some n => if fitsFloatWord n then flagNumber n else .fault .boolType
    | none => .fault .boolType
  | .text s => flagText s
  | _ => .fault .boolType

def named {α : Type} (ofText? : String → Option α) : Check α
  | .text s =>
    match ofText? s with
    | some a => .ok a
    | none => .fault .enumeration
  | _ => .fault .enumeration

def word {α : Type} (ofText? : String → Option α) : Check α
  | .text s =>
    match ofText? s with
    | some a => .ok a
    | none => .fault .literal
  | _ => .fault .literal

def nullable {α : Type} (check : Check α) : Check (Option α)
  | .null => .ok none
  | j => some <$> check j

end PageLayers.Document
