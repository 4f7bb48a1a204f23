import Tenancy.Double.Basic

/-!
# Extended precision

A number that is not negative, held with 64 bits of mantissa and any exponent. Every operation
rounds its exact result to the nearest such number, and a tie to the even mantissa. What goes
through several operations and is rounded to double precision in the end may differ from the exact
result rounded once.
-/
namespace Tenancy

/-- The mantissa times two to the exponent. -/
structure Extended where
  mantissa : Nat
  exponent : Int
  deriving DecidableEq, Repr

namespace Extended

/-- The number nearest to a quotient. -/
def ofRatio (numerator denominator : Nat) : Extended :=
  if numerator = 0 then ⟨0, 0⟩
  else
    let exponent := Double.binaryExponent numerator denominator - 63
    let (n, d) := Double.scale 2 exponent numerator denominator
    ⟨Double.roundDiv n d, exponent⟩

/-- The number nearest to a mantissa of any length times a power of two. -/
def ofScaled (mantissa : Nat) (exponent : Int) : Extended :=
  let (n, d) := Double.scale 2 (-exponent) mantissa 1
  ofRatio n d

/-- The number nearest to a natural number. -/
def ofNat (n : Nat) : Extended := ofRatio n 1

/-- The magnitude of a number of double precision; what is not finite counts as zero. -/
def ofDouble : Double → Extended
  | .finite _ mantissa exponent _ => ⟨mantissa, exponent⟩
  | _ => ⟨0, 0⟩

/-- A decimal as a number of double precision holds it. -/
def ofDecimal (significand : Nat) (exponent : Int) : Extended :=
  ofDouble (Double.ofDecimal false significand exponent)

def ratio (x : Extended) : Nat × Nat := Double.scale 2 (-x.exponent) x.mantissa 1

/-- The nearest number of double precision, with a sign. -/
def toDouble (negative : Bool) (x : Extended) : Double :=
  Double.ofRatio negative x.ratio.1 x.ratio.2

def floor (x : Extended) : Nat := x.ratio.1 / x.ratio.2

def mul (x y : Extended) : Extended := ofScaled (x.mantissa * y.mantissa) (x.exponent + y.exponent)

def div (x y : Extended) : Extended :=
  ofRatio (x.ratio.1 * y.ratio.2) (x.ratio.2 * y.ratio.1)

def add (x y : Extended) : Extended :=
  ofRatio (x.ratio.1 * y.ratio.2 + y.ratio.1 * x.ratio.2) (x.ratio.2 * y.ratio.2)

/-- The difference, or zero if it is negative. -/
def sub (x y : Extended) : Extended :=
  ofRatio (x.ratio.1 * y.ratio.2 - y.ratio.1 * x.ratio.2) (x.ratio.2 * y.ratio.2)

/-- Whether the first number is at most the second. -/
def le (x y : Extended) : Bool := x.ratio.1 * y.ratio.2 ≤ y.ratio.1 * x.ratio.2

instance : Mul Extended := ⟨mul⟩
instance : Div Extended := ⟨div⟩
instance : Add Extended := ⟨add⟩
instance : Sub Extended := ⟨sub⟩

/-- Ten to a power, by repeated squaring; `power` is squared for each binary digit that is left. -/
def powerOfTen (exponent : Nat) : Extended := go (exponent.log2 + 1) exponent (ofNat 10) (ofNat 1)
where
  /-- At most `fuel` binary digits of the exponent. -/
  go : (fuel exponent : Nat) → (power product : Extended) → Extended
    | 0, _, _, product => product
    | fuel + 1, exponent, power, product =>
      let product := if exponent % 2 = 1 then product * power else product
      if exponent / 2 = 0 then product else go fuel (exponent / 2) (power * power) product

end Extended

end Tenancy
