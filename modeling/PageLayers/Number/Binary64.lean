/-!
Binary floating-point numbers of 64 bits, as exact values. Every finite one is a whole number of
units of 2^-1074, so that rounding, order and reading back are arithmetic of natural numbers.
Rounding is to nearest, and a tie goes to the even significand.
-/

namespace PageLayers

/-- A double: not a number, an infinity, or a sign and a magnitude in units of 2^-1074. -/
inductive Binary64
  | nan
  | infinite (negative : Bool)
  | finite (negative : Bool) (units : Nat)
  deriving DecidableEq, Repr, Inhabited

inductive ExtendedInt
  | bottom
  | of (n : Int)
  | top
  deriving DecidableEq, Repr

namespace ExtendedInt

def lt : ExtendedInt → ExtendedInt → Bool
  | bottom, bottom => false
  | bottom, _ => true
  | of a, of b => a < b
  | of _, top => true
  | _, _ => false

def compare (a b : ExtendedInt) : Ordering :=
  if a.lt b then .lt else if b.lt a then .gt else .eq

end ExtendedInt

/-- The whole number nearest to `num / den`; a tie goes to the even one. -/
def roundHalfEven (num den : Nat) : Nat :=
  let quotient := num / den
  let remainder := num % den
  if 2 * remainder < den then quotient
  else if den < 2 * remainder then quotient + 1
  else if quotient % 2 = 0 then quotient else quotient + 1

namespace Binary64

def unitsPerOne : Nat := Nat.pow 2 1074

def overflowUnits : Nat := Nat.pow 2 2098

/-- The units of the double nearest to `num / den`, without a bound above: a significand has 53 bits
    and no unit is finer than 2^-1074. -/
def unitsOfRatio (num den : Nat) : Nat :=
  let scaled := num * unitsPerOne
  let coarse := Nat.pow 2 ((scaled / den).log2 + 1 - 53)
  roundHalfEven scaled (den * coarse) * coarse

def isFiniteRatio (num den : Nat) : Bool := unitsOfRatio num den < overflowUnits

def ofRatio (negative : Bool) (num den : Nat) : Binary64 :=
  let units := unitsOfRatio num den
  if units < overflowUnits then finite negative units else infinite negative

/-- The double nearest to `digits · 10^exponent`. Exponents far out of range are settled without the
    power. -/
def ofDecimal (negative : Bool) (digits : Nat) (exponent : Int) : Binary64 :=
  if digits = 0 then finite negative 0
  else if 400 < exponent then infinite negative
  else if exponent < -(400 + digits.log2 : Int) then finite negative 0
  else if 0 ≤ exponent then ofRatio negative (digits * Nat.pow 10 exponent.toNat) 1
  else ofRatio negative digits (Nat.pow 10 (-exponent).toNat)

def ofInt (n : Int) : Binary64 := ofRatio (n < 0) n.natAbs 1

/-- The place on the number line in units; a number that is none has no place. -/
def place? : Binary64 → Option ExtendedInt
  | nan => none
  | infinite negative => some (if negative then .bottom else .top)
  | finite negative units => some (.of (if negative then -units else units))

def placeOfInt (n : Int) : ExtendedInt := .of (n * unitsPerOne)

def isZero : Binary64 → Bool
  | finite _ 0 => true
  | _ => false

def toInt? : Binary64 → Option Int
  | finite negative units =>
    if units % unitsPerOne = 0 then
      let n : Int := units / unitsPerOne
      some (if negative then -n else n)
    else none
  | _ => none

def ceilUnits (units : Nat) : Nat := (units + (unitsPerOne - 1)) / unitsPerOne

end Binary64
end PageLayers
