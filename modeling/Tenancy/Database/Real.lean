import Tenancy.Double.Decimal
import Tenancy.Double.Extended

/-!
# Real numbers in the embedded database

The embedded database writes a real number with fifteen digits and reads one from at most nineteen,
both by a few operations in extended precision. Each operation rounds, so that the last digit may
be off by one; what matters is that the same digits come out each time.
-/
namespace Tenancy.RealText

open Extended

/-- A number and the power of ten that it has been divided by. -/
abbrev Scaled := Extended × Int

/-- Multiplies a scale by a power of ten, at most `fuel` times, as long as the number is at least
the product. -/
def raiseScale (x : Extended) (power : Nat) : (fuel : Nat) → Scaled → Scaled
  | 0, scale => scale
  | fuel + 1, (scale, exponent) =>
    let product := ofDecimal 1 power * scale
    if product.le x then raiseScale x power fuel (product, exponent + power) else (scale, exponent)

/-- Multiplies a number by a power of ten, at most `fuel` times, until it reaches a bound. -/
def raise (power : Nat) (bound : Extended) : (fuel : Nat) → Scaled → Scaled
  | 0, x => x
  | fuel + 1, (x, exponent) =>
    if bound.le x then (x, exponent)
    else raise power bound fuel (x * ofDecimal 1 power, exponent - power)

/-- A positive number divided by a power of ten so that one digit stands before the point. -/
def normalize (x : Extended) : Scaled :=
  let start : Scaled := (ofNat 1, 0)
  let (scale, exponent) := raiseScale x 1 10 (raiseScale x 10 10 (raiseScale x 100 4 start))
  raise 1 (ofNat 1) 10 (raise 8 (ofDecimal 1 (-8)) 50 (x / scale, exponent))

/-- Half a unit of the fifteenth digit. -/
def halfUnit : Extended := ofDecimal 5 (-5) * ofDecimal 1 (-10)

/-- A normalized number rounded up by half a unit of the last digit. -/
def round : Scaled → Scaled
  | (x, exponent) =>
    let x := x + halfUnit
    if (ofNat 10).le x then (x * ofDecimal 1 (-1), exponent + 1) else (x, exponent)

/-- The first digits of a number below ten. -/
def digits : (count : Nat) → Extended → Text
  | 0, _ => []
  | count + 1, x =>
    .ofDigit x.floor :: digits count ((x - ofNat x.floor) * ofNat 10)

/-- The text of a number: fifteen digits less the zeros at their end, with a digit on either side
of the point. -/
def write (x : Double) : Text :=
  match x with
  | .nan => []
  | .infinite negative => if negative then "-Inf" else "Inf"
  | .finite negative mantissa _ _ =>
    if mantissa = 0 then "0.0"
    else
      let (x, exponent) := round (normalize (ofDouble x))
      let digits := Text.trimEnd (· == CodePoint.ofChar '0') (digits 15 x)
      let sign : Text := if negative then "-" else ""
      if exponent < -4 ∨ 14 < exponent then
        let digits := if digits.length = 1 then digits ++ "0" else digits
        sign ++ Double.scientific 2 digits exponent
      else sign ++ Double.positional digits (exponent + 1)

/-- The least significand that takes no more digits. -/
def fullSignificand : Nat := (2 ^ 63 - 10) / 10

/-- The significand of whole digits, and how many of them it leaves out. -/
def takeWhole (significand : Nat) : Text → Nat × Nat
  | [] => (significand, 0)
  | c :: rest =>
    let significand := 10 * significand + c.digit?.getD 0
    if fullSignificand ≤ significand then (significand, rest.length) else takeWhole significand rest

/-- The significand with fraction digits added, and how many of them it takes. -/
def takeFraction (significand taken : Nat) : Text → Nat × Nat
  | [] => (significand, taken)
  | c :: rest =>
    if fullSignificand ≤ significand then (significand, taken)
    else takeFraction (10 * significand + c.digit?.getD 0) (taken + 1) rest

/-- Moves a power of ten into the significand as far as that stays whole and short. -/
def reduce (negativePower : Bool) : (significand power : Nat) → Nat × Nat
  | significand, 0 => (significand, 0)
  | significand, power + 1 =>
    if negativePower then
      if significand % 10 = 0 then reduce negativePower (significand / 10) power
      else (significand, power + 1)
    else if (2 ^ 63 - 1) / 10 ≤ significand then (significand, power + 1)
    else reduce negativePower (significand * 10) power

/-- A number of double precision times or divided by another one. -/
def multiply (negative negativePower : Bool) (x : Double) (power : Nat) : Double :=
  let factor := ofDecimal 1 power
  let (n, d) := (ofDouble x).ratio
  let (p, q) := factor.ratio
  if negativePower then Double.ofRatio negative (n * q) (d * p)
  else Double.ofRatio negative (n * p) (d * q)

/-- The number that a significand times a power of ten reads as. -/
def ofSignificand (negative : Bool) (significand : Nat) (exponent : Int) : Double :=
  if significand = 0 then Double.zero negative
  else
    let below : Bool := exponent < 0
    let (significand, power) := reduce below significand exponent.natAbs
    let scaled (power : Nat) : Double :=
      let s := ofNat significand
      let scale := powerOfTen power
      (if below then s / scale else s * scale).toDouble negative
    if power = 0 then Double.ofRatio negative significand 1
    else if 342 ≤ power then if below then Double.zero negative else .infinite negative
    else if 307 < power then multiply negative below (scaled (power - 308)) 308
    else scaled power

/-- The number that a decimal numeral reads as. -/
def read (numeral : Double.Numeral) : Double :=
  let (significand, dropped) := takeWhole 0 numeral.whole
  let (significand, taken) := takeFraction significand 0 numeral.fraction
  ofSignificand numeral.negative significand (numeral.exponent + dropped - taken)

end Tenancy.RealText
