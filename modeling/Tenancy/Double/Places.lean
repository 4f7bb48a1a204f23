import Tenancy.Double.Decimal

/-!
# Text with a given number of places

The text of a number to a given number of digits, or of digits behind the point, is that of the
exact value rounded once, a tie to the even digit. The forms differ in how many digits they ask for
and in when they write an exponent.
-/
namespace Tenancy.Double

/-- Significant digits, without zeros at their end, and how many of them stand before the point. -/
structure Digits where
  text : Text
  point : Int
  deriving DecidableEq, Repr

namespace Digits

def zero : Digits := ⟨"0", 1⟩

def ofDecimal (decimal : Decimal) : Digits :=
  let written := Text.ofNat decimal.significand
  ⟨Text.trimEnd (· == CodePoint.ofChar '0') written, written.length + decimal.exponent⟩

/-- The digits of a positive quotient rounded to a count of them. -/
def significant (count : Nat) (numerator denominator : Nat) : Digits :=
  let power := decimalExponent numerator denominator + 1 - count
  let (n, d) := scale 10 power numerator denominator
  ofDecimal ⟨roundDiv n d, power⟩

/-- The digits of a positive quotient rounded to a number of places behind the point. -/
def places (count : Nat) (numerator denominator : Nat) : Digits :=
  let significand := roundDiv (numerator * 10 ^ count) denominator
  if significand = 0 then ⟨[], -count⟩ else ofDecimal ⟨significand, -count⟩

def isZero (digits : Digits) : Bool := digits.text.all (· == CodePoint.ofChar '0')

end Digits

/-- How many digits the text of a number has. -/
inductive Form where
  /-- One digit before the point, a given number behind it, and an exponent. -/
  | exponential
  /-- A given number of digits behind the point. -/
  | fixed
  /-- At most a given number of digits, with an exponent where the number needs one. -/
  | general
  /-- As few digits as read back as the number. -/
  | shortest
  deriving DecidableEq, Repr

/-- How a number is written. -/
structure Writing where
  form : Form
  /-- The number of digits that the form asks for. -/
  precision : Nat
  /-- Whether the point is written even if no digit follows it, and zeros at the end are kept. -/
  full : Bool := false
  /-- Whether a number without exponent has a digit behind its point. -/
  pointed : Bool := false
  /-- Whether a zero that comes out negative loses its sign. -/
  unsignedZero : Bool := false

namespace Writing

/-- How many significant digits the forms that count them ask for. -/
def count (writing : Writing) : Nat :=
  match writing.form with
  | .exponential => writing.precision + 1
  | .general => max writing.precision 1
  | _ => writing.precision

def digits (writing : Writing) (mantissa : Nat) (exponent : Int) : Digits :=
  if mantissa = 0 then .zero
  else
    let (n, d) := scale 2 (-exponent) mantissa 1
    match writing.form with
    | .fixed => .places writing.precision n d
    | .shortest => .ofDecimal (shortest mantissa exponent)
    | _ => .significant writing.count n d

/-- Whether digits are written with an exponent. -/
def usesExponent (writing : Writing) (point : Int) : Bool :=
  match writing.form with
  | .exponential => true
  | .fixed => false
  | .general => point ≤ -4 || (writing.count - if writing.pointed then 1 else 0 : Int) < point
  | .shortest => point ≤ -4 || 16 < point

/-- The place behind the last one that is written, counted from the first digit. -/
def lastPlace (writing : Writing) (digits : Digits) : Int :=
  match writing.form with
  | .exponential => writing.count
  | .fixed => digits.point + writing.precision
  | .general => if writing.full then writing.count else digits.text.length
  | .shortest => digits.text.length

/-- Digits with the point behind a given number of them, filled up with zeros to a place. -/
def place (digits : Text) (point last : Int) : Text :=
  let zeros (count : Int) : Text := List.replicate count.toNat (CodePoint.ofChar '0')
  if point ≤ 0 then "0." ++ zeros (-point) ++ digits ++ zeros (last - digits.length)
  else if point ≤ digits.length then
    digits.take point.toNat ++ "." ++ digits.drop point.toNat ++ zeros (last - digits.length)
  else digits ++ zeros (point - digits.length) ++ "." ++ zeros (last - point)

/-- A point at the end of a text is dropped unless it is to stay. -/
def dropPoint (writing : Writing) (t : Text) : Text :=
  if !writing.full && t.getLast? == some (CodePoint.ofChar '.') then t.dropLast else t

/-- The mark, the sign and at least two digits of an exponent. -/
def exponentText (exponent : Int) : Text :=
  let magnitude := Text.ofNat exponent.natAbs
  "e" ++ (if exponent < 0 then "-" else "+")
    ++ List.replicate (2 - magnitude.length) (CodePoint.ofChar '0') ++ magnitude

def layOut (writing : Writing) (digits : Digits) : Text :=
  let last := writing.lastPlace digits
  if writing.usesExponent digits.point then
    writing.dropPoint (place digits.text 1 (max last 1)) ++ exponentText (digits.point - 1)
  else
    let last := max last (if writing.pointed then digits.point + 1 else digits.point)
    writing.dropPoint (place digits.text digits.point last)

/-- The text of a number. -/
def write (writing : Writing) : Double → Text
  | .nan => "nan"
  | .infinite negative => if negative then "-inf" else "inf"
  | .finite negative mantissa exponent _ =>
    let digits := writing.digits mantissa exponent
    let signed := negative && !(writing.unsignedZero && digits.isZero)
    (if signed then "-" else "") ++ writing.layOut digits

end Writing

end Tenancy.Double
