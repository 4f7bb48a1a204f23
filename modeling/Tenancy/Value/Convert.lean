import Tenancy.Numeral
import Tenancy.Report
import Tenancy.Text.Casing
import Tenancy.Value.Display

/-!
# Values as numbers and truth values

The integer of a value is the whole part of a number, or what a text or octets denote as a number
literal. This is how a count is read from a result row and how the seconds are read from the clock.
The options of an address may also be other numbers, or words for a truth value.
-/
namespace Tenancy

/-- Why a value is no integer. -/
inductive ConversionFault where
  | wrongType (typeName : String)
  /-- The display form of what is no number literal. -/
  | malformed (shown : Text)
  | tooLong (digits : Nat)
  | notANumber
  | infinite
  /-- The display form of what is no decimal number. -/
  | notADecimal (shown : Text)
  | notDecimalType (typeName : String)
  /-- The display form of what is no word for a truth value. -/
  | notAFlag (shown : Text)
  deriving DecidableEq, Repr

/-- The words for an integer literal of too many digits. -/
def tooManyDigitsMessage (digits : Nat) : Text :=
  "Exceeds the limit (4300 digits) for integer string conversion: value has " ++ Text.ofNat digits
    ++ " digits; use sys.set_int_max_str_digits() to increase the limit"

def ConversionFault.message : ConversionFault → Text
  | .wrongType typeName =>
    "int() argument must be a string, a bytes-like object or a real number, not '"
      ++ Text.ofString typeName ++ "'"
  | .malformed shown => "invalid literal for int() with base 10: " ++ shown.take 200
  | .tooLong digits => tooManyDigitsMessage digits
  | .notANumber => "cannot convert float NaN to integer"
  | .infinite => "cannot convert float infinity to integer"
  | .notADecimal shown => "could not convert string to float: " ++ shown
  | .notDecimalType typeName =>
    "float() argument must be a string or a real number, not '" ++ Text.ofString typeName ++ "'"
  | .notAFlag shown => "String is not true/false: " ++ shown

def ConversionFault.report (fault : ConversionFault) : Report :=
  .of (match fault with
    | .wrongType _ => "TypeError"
    | .notDecimalType _ => "TypeError"
    | .infinite => "OverflowError"
    | _ => "ValueError") fault.message

/-- The integer that a text denotes as a number literal. -/
def Text.toInt (t : Text) : Except ConversionFault Int :=
  match Numeral.ofLiteral t with
  | .ok n => .ok n
  | .error .malformed => .error (.malformed t.quoted)
  | .error (.tooLong digits) => .error (.tooLong digits)

/-- The integer that octets denote as a number literal, which is in ASCII. -/
def Octets.toInt (data : Octets) : Except ConversionFault Int :=
  if data.all (·.toNat < 0x80) then
    match Numeral.ofLiteral (data.map fun octet => Fin.ofNat 0x110000 octet.toNat) with
    | .ok n => .ok n
    | .error .malformed => .error (.malformed (Octets.quoted (data.take 200)))
    | .error (.tooLong digits) => .error (.tooLong digits)
  else .error (.malformed (Octets.quoted (data.take 200)))

def Value.toInt : Value → Except ConversionFault Int
  | .int n => .ok n
  | .bool b => .ok (if b then 1 else 0)
  | .float x =>
    match x.truncate? with
    | some n => .ok n
    | none => .error (if x = .nan then .notANumber else .infinite)
  | .text t => t.toInt
  | .octets data => Octets.toInt data
  | value => .error (.wrongType value.typeName)

/-- A code point as the ASCII character that stands for it in a number. -/
def CodePoint.inNumber (c : CodePoint) : CodePoint :=
  if c.val < 0x80 then c
  else if c.isWhiteSpace then .space
  else match c.decimalDigit? with
    | some digit => .ofDigit digit
    | none => CodePoint.ofChar '?'

/-- A text without low lines, if all of them are single and between digits. -/
def Text.dropDigitLines? (afterDigit : Bool) : Text → Option Text
  | [] => some []
  | c :: rest =>
    if c.val = 0x5f then
      if afterDigit && rest.head?.any CodePoint.isDigit then dropDigitLines? false rest else none
    else (dropDigitLines? c.isDigit rest).map (c :: ·)

/-- The number that a text denotes: a decimal number, an infinity, or what is not a number. -/
def Text.toDouble (t : Text) : Except ConversionFault Double :=
  let body := Text.trim CodePoint.isAsciiBlank (t.map CodePoint.inNumber)
  match (Text.dropDigitLines? false body).bind Double.read? with
  | some x => .ok x
  | none => .error (.notADecimal t.quoted)

def yesWords : List String := ["true", "yes", "on", "y", "t", "1"]

def noWords : List String := ["false", "no", "off", "n", "f", "0"]

/-- The truth value that a text is a word for. -/
def Text.toFlag (t : Text) : Except ConversionFault Bool :=
  let word := Text.lower (Text.trim CodePoint.isBlank t)
  if yesWords.any (Text.ofString · == word) then .ok true
  else if noWords.any (Text.ofString · == word) then .ok false
  else .error (.notAFlag word.quoted)

end Tenancy
