import Tenancy.Text.Basic

/-!
# Binary floating point numbers

A number of double precision is a mantissa times a power of two, an infinity, or not a number.
Every finite number has one canonical form: the mantissa fills its 53 bits, or the exponent is the
least one. Rounding is exact: a quotient of natural numbers goes to the nearest number, and a tie
to the even mantissa.
-/
namespace Tenancy

namespace Double

/-- The mantissa has at most 53 bits, and it has all of them unless the exponent is least. -/
def Canonical (mantissa : Nat) (exponent : Int) : Prop :=
  mantissa < 2 ^ 53 ∧ -1074 ≤ exponent ∧ exponent ≤ 971 ∧ (2 ^ 52 ≤ mantissa ∨ exponent = -1074)

instance (mantissa : Nat) (exponent : Int) : Decidable (Canonical mantissa exponent) :=
  inferInstanceAs (Decidable (_ ∧ _ ∧ _ ∧ (_ ∨ _)))

end Double

/-- A number of double precision; `finite` is the mantissa times two to the exponent. -/
inductive Double where
  | finite (negative : Bool) (mantissa : Nat) (exponent : Int)
      (canonical : Double.Canonical mantissa exponent)
  | infinite (negative : Bool)
  | nan
  deriving DecidableEq

namespace Double

def zero (negative : Bool) : Double := .finite negative 0 (-1074) (by decide)

instance : Inhabited Double := ⟨zero false⟩

/-- A pair beyond the greatest exponent is infinite. -/
def ofPair (negative : Bool) (mantissa : Nat) (exponent : Int) : Double :=
  if h : Canonical mantissa exponent then .finite negative mantissa exponent h
  else .infinite negative

/-- The quotient rounded to the nearest natural number, a tie to the even one. -/
def roundDiv (numerator denominator : Nat) : Nat :=
  let quotient := numerator / denominator
  let rest := numerator % denominator
  if 2 * rest < denominator then quotient
  else if denominator < 2 * rest then quotient + 1
  else quotient + quotient % 2

/-- Numerator and denominator of a quotient divided by a power of a base. -/
def scale (base : Nat) (exponent : Int) (numerator denominator : Nat) : Nat × Nat :=
  if 0 ≤ exponent then (numerator, denominator * base ^ exponent.toNat)
  else (numerator * base ^ (-exponent).toNat, denominator)

/-- The exponent of the greatest power of two that is at most a positive quotient. -/
def binaryExponent (numerator denominator : Nat) : Int :=
  let guess : Int := (numerator.log2 : Int) - (denominator.log2 : Int)
  let (n, d) := scale 2 guess numerator denominator
  if d ≤ n then guess else guess - 1

/-- The number nearest to a quotient. -/
def ofRatio (negative : Bool) (numerator denominator : Nat) : Double :=
  if numerator = 0 then zero negative
  else
    let exponent := max (binaryExponent numerator denominator - 52) (-1074)
    let (n, d) := scale 2 exponent numerator denominator
    let mantissa := roundDiv n d
    if mantissa = 2 ^ 53 then ofPair negative (2 ^ 52) (exponent + 1)
    else ofPair negative mantissa exponent

/-- The number nearest to a decimal significand times a power of ten. -/
def ofDecimal (negative : Bool) (significand : Nat) (exponent : Int) : Double :=
  -- A power far out of range decides the result by itself
  let magnitude := ((Nat.toDigits 10 significand).length : Int) + exponent
  if significand = 0 then zero negative
  else if 310 < magnitude then .infinite negative
  else if magnitude < -330 then zero negative
  else if 0 ≤ exponent then ofRatio negative (significand * 10 ^ exponent.toNat) 1
  else ofRatio negative significand (10 ^ (-exponent).toNat)

/-- The number that whole digits, fraction digits and a power of ten denote. -/
def ofDigits (negative : Bool) (whole fraction : Text) (exponent : Int) : Double :=
  ofDecimal negative (Text.decimalValue (whole ++ fraction)) (exponent - fraction.length)

/-- Neither infinite nor without a number. -/
def isFinite : Double → Bool
  | .finite .. => true
  | _ => false

/-- The whole part, for a finite number. -/
def truncate? : Double → Option Int
  | .finite negative mantissa exponent _ =>
    let (n, d) := scale 2 (-exponent) mantissa 1
    let whole : Int := (n / d : Nat)
    some (if negative then -whole else whole)
  | _ => none

/-- The integer that the number equals, if there is one. -/
def toInt? : Double → Option Int
  | .finite negative mantissa exponent _ =>
    let (n, d) := scale 2 (-exponent) mantissa 1
    if n % d = 0 then
      let whole : Int := (n / d : Nat)
      some (if negative then -whole else whole)
    else none
  | _ => none

/-- The number nearest to an integer. -/
def ofInt (n : Int) : Double := ofRatio (n < 0) n.natAbs 1

def isZero : Double → Bool
  | .finite _ mantissa _ _ => mantissa == 0
  | _ => false

/-- Equality of numbers: both zeros are equal, and what is not a number equals nothing. -/
def eq : Double → Double → Bool
  | .nan, _ => false
  | _, .nan => false
  | x, y => x.isZero && y.isZero || x = y

/-- The order of numbers, for two that are numbers. -/
def lt : Double → Double → Bool
  | .nan, _ => false
  | _, .nan => false
  | .infinite n, .infinite m => n && !m
  | .infinite n, _ => n
  | _, .infinite m => !m
  | .finite n a e _, .finite m b f _ =>
    let (p, q) := scale 2 (-e) a 1
    let (r, s) := scale 2 (-f) b 1
    let x : Int := if n then -(p * s : Nat) else (p * s : Nat)
    let y : Int := if m then -(r * q : Nat) else (r * q : Nat)
    x < y

end Double

end Tenancy
