import PageLayers.Number.Binary64

/-!
The shortest decimal of a double: the fewest digits that read back as the same double; of two such
decimals the nearer one, and of two equally near ones the one with the even last digit.
-/

namespace PageLayers.Number

structure Decimal where
  digits : Nat
  exponent : Int
  deriving DecidableEq, Repr

/-- The exponent of the leading digit of a positive magnitude. No magnitude is below 10^-400, so
    after scaling by that power the count of whole digits tells it. -/
def leadingExponent (units : Nat) : Int :=
  ((Nat.toDigits 10 (units * Nat.pow 10 400 / Binary64.unitsPerOne)).length : Int) - 401

def readsBack (units : Nat) (d : Decimal) : Bool :=
  Binary64.ofDecimal false d.digits d.exponent == .finite false units

/-- The decimal with `count` digits that reads back, if there is one: the magnitude's two neighbours
    on the grid of such decimals are tried. -/
def decimalOfLength? (units count : Nat) : Option Decimal :=
  let exponent := leadingExponent units - count + 1
  let num := units * Nat.pow 10 (-exponent).toNat
  let den := Binary64.unitsPerOne * Nat.pow 10 exponent.toNat
  let below : Decimal := ⟨num / den, exponent⟩
  let above : Decimal := ⟨num / den + 1, exponent⟩
  match readsBack units below, readsBack units above with
  | true, false => some below
  | false, true => some above
  | false, false => none
  | true, true => some ⟨roundHalfEven num den, exponent⟩

/-- The shortest decimal of a positive magnitude; seventeen digits are always enough. -/
def shortest (units : Nat) : Decimal :=
  ((List.range 17).findSome? fun n => decimalOfLength? units (n + 1)).getD ⟨0, 0⟩

def significantDigits (digits : Nat) : List Char :=
  ((Nat.toDigits 10 digits).reverse.dropWhile (· = '0')).reverse

def twoDigits (n : Nat) : String := if n < 10 then s!"0{n}" else toString n

/-- A positive decimal in writing. A leading digit of exponent -4 to 15 is written in positional
    form, with at least one digit on each side of the point; others have an exponent of a sign and
    at least two digits. -/
def Decimal.text (d : Decimal) : String :=
  let digits := significantDigits d.digits
  let leading : Int := d.exponent + (Nat.toDigits 10 d.digits).length - 1
  if -4 ≤ leading && leading < 16 then
    if leading < 0 then
      "0." ++ String.ofList (List.replicate (-leading - 1).toNat '0' ++ digits)
    else
      let count := leading.toNat + 1
      let padded := digits ++ List.replicate (count - digits.length) '0'
      let fraction := padded.drop count
      String.ofList (padded.take count) ++ "." ++
        (if fraction.isEmpty then "0" else String.ofList fraction)
  else
    let sign := if leading < 0 then "-" else "+"
    let fraction := if digits.length ≤ 1 then "" else "." ++ String.ofList digits.tail
    String.ofList (digits.take 1) ++ fraction ++ "e" ++ sign ++ twoDigits leading.natAbs

def magnitudeText (units : Nat) : String :=
  if units = 0 then "0.0" else (shortest units).text

def floatText (nan infinity : String) : Binary64 → String
  | .nan => nan
  | .infinite negative => if negative then "-" ++ infinity else infinity
  | .finite negative units => (if negative then "-" else "") ++ magnitudeText units

end PageLayers.Number
