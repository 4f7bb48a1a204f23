import Tenancy.Database.Real
import Tenancy.Sql.Schema
import Tenancy.Store.Fault
import Tenancy.Text.Blank
import Tenancy.Text.Utf8

/-!
# Cells

What the embedded database keeps of a value. A column of texts turns numbers into text, and a
column of integers turns numeric text and whole numbers into integers; whatever has no such form
is kept as it is.
-/
namespace Tenancy

/-- What a row holds in a column. -/
inductive Cell where
  | null
  | int (n : Int)
  | real (x : Double)
  | text (t : Text)
  | blob (data : Octets)
  deriving DecidableEq

namespace Cell

/-- Whether an integer fits a word of 64 bits. -/
def fits (n : Int) : Bool := -2 ^ 63 ≤ n && n < 2 ^ 63

/-- The cell that a parameter is passed as. `position` counts the parameters from one. -/
def ofValue (position : Nat) : Value → Except Fault Cell
  | .null => .ok .null
  | .bool b => .ok (.int (if b then 1 else 0))
  | .int n => if fits n then .ok (.int n) else .error .integerTooLarge
  | .float x => .ok (if x = .nan then .null else .real x)
  | .text t =>
    match t.encodeFault? with
    | some fault => .error (.unencodable fault)
    | none => .ok (.text t)
  | .octets data => .ok (.blob data)
  | value =>
    .error (.database "ProgrammingError"
      ("Error binding parameter " ++ Text.ofNat position ++ ": type '"
        ++ Text.ofString value.typeName ++ "' is not supported"))

def toValue : Cell → Value
  | .null => .null
  | .int n => .int n
  | .real x => .float x
  | .text t => .text t
  | .blob data => .octets data

/-- A whole number as an integer, if it lies inside the bounds of a word. -/
def wholeReal (x : Double) : Cell :=
  match x.toInt? with
  | some n => if -2 ^ 63 < n ∧ n < 2 ^ 63 - 1 then .int n else .real x
  | none => .real x

/-- The number that a text is, blanks around it apart. -/
def ofNumericText (t : Text) : Option Cell :=
  let body := Text.trim CodePoint.isAsciiBlank t
  (Double.readNumeral? body).map fun numeral =>
    let (negative, digits) := Numeral.takeSign body
    let magnitude : Int := Text.decimalValue digits
    let n := if negative then -magnitude else magnitude
    if digits.all CodePoint.isDigit && fits n then .int n else wholeReal (RealText.read numeral)

/-- The cell that a column of texts keeps. -/
def asText : Cell → Cell
  | .int n => .text (Text.ofInt n)
  | .real x => .text (RealText.write x)
  | cell => cell

/-- The cell that a column of integers keeps. -/
def asInteger : Cell → Cell
  | .text t => (ofNumericText t).getD (.text t)
  | .real x => wholeReal x
  | cell => cell

/-- The cell that a column keeps. -/
def stored : ColumnType → Cell → Cell
  | .varchar _, cell => cell.asText
  | .text, cell => cell.asText
  | .bigint, cell => cell.asInteger

/-- The order of cells by what they hold: nothing, numbers, texts, octets. -/
def rank : Cell → Nat
  | .null => 0
  | .int _ => 1
  | .real _ => 1
  | .text _ => 2
  | .blob _ => 3

def number : Cell → Double
  | .int n => Double.ofInt n
  | .real x => x
  | _ => .nan

/-- The order of cells; texts and octets are ordered by their octets. -/
def le (a b : Cell) : Bool :=
  if a.rank ≠ b.rank then a.rank < b.rank
  else match a, b with
    | .int n, .int m => n ≤ m
    | .text s, .text t => Text.le s t
    | .blob s, .blob t =>
      Text.le (s.map fun octet => Fin.ofNat 0x110000 octet.toNat)
        (t.map fun octet => Fin.ofNat 0x110000 octet.toNat)
    | .null, .null => true
    | a, b => !b.number.lt a.number

/-- Whether two cells that are not null hold the same. -/
def same (a b : Cell) : Bool := a.le b && b.le a

end Cell

end Tenancy
