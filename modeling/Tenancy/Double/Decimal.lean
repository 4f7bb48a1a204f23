import Tenancy.Double.Basic

/-!
# Decimal text of numbers

The text of a number has the fewest digits that read back as that number. For each count of
digits the two neighbours on that decimal grid are tried, and of two that read back the nearer one
is taken. How the digits are laid out (where positional notation ends, how an exponent is written,
what the texts without digits are) is a matter of the format and stands in a `Layout`.
-/
namespace Tenancy.Double

/-- A decimal significand times a power of ten. -/
structure Decimal where
  significand : Nat
  exponent : Int
  deriving DecidableEq, Repr

/-- The exponent of the greatest power of ten that is at most a positive quotient. -/
def decimalExponent (numerator denominator : Nat) : Int :=
  let guess := binaryExponent numerator denominator * 30103 / 100000
  let (n, d) := scale 10 (guess + 1) numerator denominator
  if d ≤ n then guess + 1
  else
    let (n, d) := scale 10 guess numerator denominator
    if d ≤ n then guess else guess - 1

/-- The nearer of the two neighbours of a positive number among the decimals with a given power of
ten that read back as that number; of two equally near the even one. -/
def readBack? (mantissa : Nat) (exponent : Int) (numerator denominator : Nat) (power : Int) :
    Option Decimal :=
  let (n, d) := scale 10 power numerator denominator
  let below := n / d
  let readsBack (significand : Nat) : Bool :=
    ofDecimal false significand power = ofPair false mantissa exponent
  match readsBack below, readsBack (below + 1) with
  | true, true => some ⟨roundDiv n d, power⟩
  | true, false => some ⟨below, power⟩
  | false, true => some ⟨below + 1, power⟩
  | false, false => none

/-- The exact value, which always reads back. -/
def exactDecimal (mantissa : Nat) (exponent : Int) : Decimal :=
  if 0 ≤ exponent then ⟨mantissa * 2 ^ exponent.toNat, 0⟩
  else ⟨mantissa * 5 ^ (-exponent).toNat, exponent⟩

/-- A decimal with the fewest digits that reads back as a positive number. -/
def shortest (mantissa : Nat) (exponent : Int) : Decimal :=
  -- Seventeen digits are enough for every number
  let (n, d) := scale 2 (-exponent) mantissa 1
  let first := decimalExponent n d
  let found := (List.range 17).findSome? fun (count : Nat) =>
    readBack? mantissa exponent n d (first - count)
  found.getD (exactDecimal mantissa exponent)

/-- How digits become text. -/
structure Layout where
  /-- The least power of ten of the first digit that is written positionally. -/
  positionalFrom : Int
  /-- The least power of ten above it that takes an exponent again. -/
  positionalTo : Int
  /-- The least number of digits of an exponent. -/
  exponentDigits : Nat
  /-- The text of what is not a number. -/
  nan : String
  /-- The text of positive infinity. -/
  infinity : String

/-- The layout of values in messages. -/
def Layout.display : Layout := ⟨-4, 16, 2, "nan", "inf"⟩

/-- The layout of stored documents. -/
def Layout.stored : Layout := ⟨-4, 16, 2, "NaN", "Infinity"⟩

def Layout.document : Layout := ⟨-5, 16, 1, "NaN", "Infinity"⟩

/-- Digits with the point behind a given number of them, and with a digit on either side of it. -/
def positional (digits : Text) (point : Int) : Text :=
  if point ≤ 0 then
    "0." ++ List.replicate (-point).toNat (CodePoint.ofChar '0') ++ digits
  else if digits.length ≤ point.toNat then
    digits ++ List.replicate (point.toNat - digits.length) (CodePoint.ofChar '0') ++ ".0"
  else digits.take point.toNat ++ "." ++ digits.drop point.toNat

/-- One digit before the point, no point without a fraction, and a signed exponent. -/
def scientific (exponentDigits : Nat) (digits : Text) (exponent : Int) : Text :=
  let fraction : Text := match digits.drop 1 with
    | [] => []
    | rest => "." ++ rest
  let magnitude := Text.ofNat exponent.natAbs
  digits.take 1 ++ fraction ++ "e" ++ (if exponent < 0 then "-" else "+")
    ++ List.replicate (exponentDigits - magnitude.length) (CodePoint.ofChar '0') ++ magnitude

def toText (layout : Layout) : Double → Text
  | .nan => layout.nan
  | .infinite negative => (if negative then "-" else "") ++ Text.ofString layout.infinity
  | .finite negative mantissa exponent _ =>
    let sign : Text := if negative then "-" else ""
    if mantissa = 0 then sign ++ "0.0"
    else
      let decimal := shortest mantissa exponent
      let written := Text.ofNat decimal.significand
      let digits := Text.trimEnd (· == CodePoint.ofChar '0') written
      let point : Int := written.length + decimal.exponent
      let body :=
        if layout.positionalFrom ≤ point - 1 ∧ point - 1 < layout.positionalTo then
          positional digits point
        else scientific layout.exponentDigits digits (point - 1)
      sign ++ body

/-- A number as it is written: whole digits and fraction digits, of which there may be none, and a
power of ten. -/
structure Numeral where
  negative : Bool
  whole : Text
  fraction : Text
  exponent : Int
  deriving DecidableEq, Repr

/-- The exponent behind its mark. -/
def readExponent? (t : Text) : Option Int :=
  let (below, power) := match t with
    | 0x2d :: power => (true, power)
    | 0x2b :: power => (false, power)
    | power => (false, power)
  if power.isEmpty || power.any (!·.isDigit) then none
  else
    let magnitude : Int := Text.decimalValue power
    some (if below then -magnitude else magnitude)

/-- A sign, digits with or without a fraction, and with or without an exponent; blanks are not
skipped. -/
def readNumeral? (t : Text) : Option Numeral :=
  let (negative, t) := match t with
    | 0x2d :: rest => (true, rest)
    | 0x2b :: rest => (false, rest)
    | rest => (false, rest)
  let whole := t.takeWhile CodePoint.isDigit
  let t := t.dropWhile CodePoint.isDigit
  let (fraction, t) := match t with
    | 0x2e :: rest => (rest.takeWhile CodePoint.isDigit, rest.dropWhile CodePoint.isDigit)
    | rest => ([], rest)
  if whole.isEmpty && fraction.isEmpty then none
  else match t with
    | [] => some ⟨negative, whole, fraction, 0⟩
    | mark :: rest =>
      if mark.asciiLower = CodePoint.ofChar 'e' then
        (readExponent? rest).map fun exponent => ⟨negative, whole, fraction, exponent⟩
      else none

/-- The number nearest to a numeral. -/
def Numeral.toDouble (numeral : Numeral) : Double :=
  ofDigits numeral.negative numeral.whole numeral.fraction numeral.exponent

/-- The number nearest to a decimal numeral. -/
def readDecimal? (t : Text) : Option Double := (readNumeral? t).map Numeral.toDouble

/-- A decimal number, or one of the texts for an infinity and for what is not a number. -/
def read? (t : Text) : Option Double :=
  let (negative, body) := match t with
    | 0x2d :: rest => (true, rest)
    | 0x2b :: rest => (false, rest)
    | rest => (false, rest)
  let body := Text.asciiLower body
  if body = Text.ofString "inf" ∨ body = Text.ofString "infinity" then some (.infinite negative)
  else if body = Text.ofString "nan" then some .nan
  else readDecimal? t

end Tenancy.Double
