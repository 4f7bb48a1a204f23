import Tenancy.Double.Places
import Tenancy.Log.TemplateFault
import Tenancy.Text.Casing

/-!
# Layouts of arguments

A place in a template may say how its argument is laid out: the character that fills the field and
where the argument stands in it, what is written for the sign, the width of the field, a separator
between groups of digits, a precision, and a kind, which is a letter. Texts, integers and numbers
with a fraction have layouts; an argument of any other type has only the empty one.
-/
namespace Tenancy.Template

/-- Where an argument stands in its field. -/
inductive Alignment where
  | left
  | right
  | center
  /-- To the right, and the sign to the left. -/
  | inner
  deriving DecidableEq, Repr

def Alignment.ofMark? (c : CodePoint) : Option Alignment :=
  if c = CodePoint.ofChar '<' then some .left
  else if c = CodePoint.ofChar '>' then some .right
  else if c = CodePoint.ofChar '^' then some .center
  else if c = CodePoint.ofChar '=' then some .inner
  else none

/-- A layout. `kind` is U+0000 where none is given and the type has no usual one. -/
structure Layout where
  fill : CodePoint
  alignment : Alignment
  /-- A plus sign or a blank, written where a number has no minus sign, or a minus sign. -/
  sign : Option CodePoint
  unsignedZero : Bool
  alternate : Bool
  width : Option Nat
  separator : Option CodePoint
  precision : Option Nat
  kind : CodePoint
  deriving DecidableEq, Repr

def greatestNumber : Nat := 2 ^ 63 - 1

/-- The number at the start of a text, in the digits of any script, and the rest. -/
def takeNumber (t : Text) : Except TemplateFault (Option Nat × Text) := go none t
where
  /-- `number` is the number so far. -/
  go (number : Option Nat) : Text → Except TemplateFault (Option Nat × Text)
    | [] => .ok (number, [])
    | c :: rest =>
      match c.decimalDigit? with
      | none => .ok (number, c :: rest)
      | some digit =>
        let next := number.getD 0 * 10 + digit
        if greatestNumber < next then
          .error (.malformed "Too many decimal digits in format string")
        else go (some next) rest

/-- The rest behind a given character, if the text starts with it. -/
def takeMark (mark : Char) : Text → Bool × Text
  | [] => (false, [])
  | c :: rest => if c = CodePoint.ofChar mark then (true, rest) else (false, c :: rest)

namespace Layout

/-- The filling character and the alignment, as far as they are given, and the rest. -/
def takeAlignment (t : Text) : Option CodePoint × Option Alignment × Text :=
  match t with
  | c :: d :: rest =>
    match Alignment.ofMark? d, Alignment.ofMark? c with
    | some alignment, _ => (some c, some alignment, rest)
    | none, some alignment => (none, some alignment, d :: rest)
    | none, none => (none, none, t)
  | [c] =>
    match Alignment.ofMark? c with
    | some alignment => (none, some alignment, [])
    | none => (none, none, t)
  | [] => (none, none, [])

/-- The character for the sign, and the rest. -/
def takeSign (t : Text) : Option CodePoint × Text :=
  match t with
  | c :: rest => if c.isOneOf "+- " then (some c, rest) else (none, t)
  | [] => (none, [])

/-- The separator of digit groups, and the rest. -/
def takeSeparator (t : Text) : Except TemplateFault (Option CodePoint × Text) :=
  let (comma, t) := takeMark ',' t
  let (line, t) := takeMark '_' t
  let again := line && t.head? == some (CodePoint.ofChar ',')
  if (comma && line) || again then .error (.malformed "Cannot specify both ',' and '_'.")
  else .ok (if comma then some 0x2c else if line then some 0x5f else none, t)

/-- The precision behind a point, and the rest. -/
def takePrecision (t : Text) : Except TemplateFault (Option Nat × Text) :=
  match takeMark '.' t with
  | (false, t) => .ok (none, t)
  | (true, t) => do
    match ← takeNumber t with
    | (none, _) => throw (.malformed "Format specifier missing precision")
    | found => return found

/-- Whether numbers of a kind may have a separator between groups of their digits. -/
def isGroupable (separator kind : CodePoint) : Bool :=
  kind.val == 0 || kind.isOneOf "deEfFgG%" || (separator.val == 0x5f && kind.isOneOf "boxX")

/-- The layout that a text asks for an argument of a type. `absentKind` is the usual kind of the
type; arguments that are numbers stand to the right. -/
def read (typeName : String) (isNumber : Bool) (absentKind : CodePoint) (t : Text) :
    Except TemplateFault Layout := do
  let (fill, alignment, rest) := takeAlignment t
  let (sign, rest) := takeSign rest
  let (unsignedZero, rest) := takeMark 'z' rest
  let (alternate, rest) := takeMark '#' rest
  let (zeros, rest) := if fill.isNone then takeMark '0' rest else (false, rest)
  let absent : Alignment := if !isNumber then .left else if zeros then .inner else .right
  let (width, rest) ← takeNumber rest
  let (separator, rest) ← takeSeparator rest
  let (precision, rest) ← takePrecision rest
  let kind ← match rest with
    | [] => pure absentKind
    | [kind] => pure kind
    | _ => throw (.invalidLayout t typeName)
  if let some separator := separator then
    if !isGroupable separator kind then throw (.notGrouped separator kind)
  return {
    fill := fill.getD (if zeros then CodePoint.ofChar '0' else .space)
    alignment := alignment.getD absent
    sign, unsignedZero, alternate, width, separator, precision, kind }

/-- How many characters fill the field before, inside and behind an argument of some length. -/
def padding (layout : Layout) (length : Nat) : Nat × Nat × Nat :=
  let free := layout.width.getD 0 - length
  match layout.alignment with
  | .left => (0, 0, free)
  | .right => (free, 0, 0)
  | .center => (free / 2, 0, free - free / 2)
  | .inner => (0, free, 0)

def filling (layout : Layout) (count : Nat) : Text := List.replicate count layout.fill

/-- A text in its field; where the alignment is inner, the text stands to the left. -/
def ofText (layout : Layout) (t : Text) : Except TemplateFault Text :=
  let refuse (item : LayoutItem) : Except TemplateFault Text :=
    .error (.notAllowed item "in string format specifier")
  if layout.sign = some .space then refuse .blankSign
  else if layout.sign.isSome then refuse .sign
  else if layout.unsignedZero then refuse .unsignedZero
  else if layout.alternate then refuse .alternate
  else if layout.alignment = .inner then refuse .innerAlignment
  else
    let t := t.take (layout.precision.getD t.length)
    let (before, _, behind) := layout.padding t.length
    .ok (layout.filling before ++ t ++ layout.filling behind)

/-- Digits in groups of a size, the last group full, with zeros before them up to a width; at least
one digit. `digits` come last first, and so does the result. The width counts separators too, and a
separator is never the first character, so that the result may exceed it by one. -/
def group (size : Nat) (separator : CodePoint) :
    (fuel : Nat) → (digits : Text) → (width : Int) → Text
  | 0, digits, _ => digits
  | fuel + 1, digits, width =>
    let wanted := min (size : Int) (max (max (digits.length : Int) width) 1)
    let chunk := digits.take wanted.toNat
    let zeros := List.replicate (wanted.toNat - chunk.length) (CodePoint.ofChar '0')
    let rest := digits.drop wanted.toNat
    if rest.isEmpty ∧ width - wanted ≤ 0 then chunk ++ zeros
    else chunk ++ zeros ++ separator :: group size separator fuel rest (width - wanted - 1)

/-- Digits with the separator between groups of them, filled up with zeros to a width. -/
def groupDigits (layout : Layout) (digits : Text) (width : Int) : Text :=
  if digits.isEmpty then []
  else
    match layout.separator with
    | none => List.replicate (width.toNat - digits.length) (CodePoint.ofChar '0') ++ digits
    | some separator =>
      let size := if layout.kind.isOneOf "boxX" then 4 else 3
      (group size separator (digits.length + width.toNat + 1) digits.reverse width).reverse

def signText (layout : Layout) (negative : Bool) : Text :=
  if negative then "-"
  else match layout.sign with
    | some c => if c = CodePoint.ofChar '-' then [] else [c]
    | none => []

/-- A number in its field: the sign, what marks the base, the digits before the point, and the
rest. -/
def ofParts (layout : Layout) (negative : Bool) (base digits rest : Text) : Text :=
  let sign := layout.signText negative
  let others : Int := (sign.length + base.length + rest.length : Nat)
  let zeroFilled := layout.fill == CodePoint.ofChar '0' && layout.alignment == .inner
  let least : Int := if zeroFilled then (layout.width.elim (-1) Int.ofNat) - others else 0
  let digits := layout.groupDigits digits least
  let (before, inside, behind) :=
    layout.padding (sign.length + base.length + digits.length + rest.length)
  layout.filling before ++ sign ++ base ++ layout.filling inside ++ digits ++ rest
    ++ layout.filling behind

def form (kind : CodePoint) : Double.Form :=
  if kind.isOneOf "eE" then .exponential
  else if kind.isOneOf "fF%" then .fixed
  else .general

/-- A hundred times a number. -/
def timesHundred : Double → Double
  | .finite negative mantissa exponent _ =>
    let (n, d) := Double.scale 2 (-exponent) mantissa 1
    Double.ofRatio negative (100 * n) d
  | x => x

def greatestPrecision : Nat := 2 ^ 31 - 1

def ofDouble (layout : Layout) (x : Double) : Except TemplateFault Text :=
  if layout.precision.any (greatestPrecision < ·) then .error (.malformed "precision too big")
  else
    let kindless := layout.kind.val == 0
    let percent := layout.kind == CodePoint.ofChar '%'
    let writing : Double.Writing :=
      { form := if kindless && layout.precision.isNone then .shortest else form layout.kind
        precision := layout.precision.getD 6
        full := layout.alternate
        pointed := kindless
        unsignedZero := layout.unsignedZero }
    let written := writing.write (if percent then timesHundred x else x)
    let written := if layout.kind.isOneOf "EFG" then written.upper else written
    let (negative, body) := match written with
      | 0x2d :: body => (true, body)
      | body => (false, body)
    let rest := body.dropWhile CodePoint.isDigit ++ if percent then Text.ofString "%" else []
    .ok (layout.ofParts negative [] (body.takeWhile CodePoint.isDigit) rest)

/-- The number nearest to an integer, if that is finite. -/
def nearest (n : Int) : Except TemplateFault Double :=
  let x := Double.ofInt n
  if x.isFinite then .ok x else .error (.outOfBounds "int too large to convert to float")

def character (n : Int) : Except TemplateFault CodePoint :=
  if n < -2 ^ 63 ∨ 2 ^ 63 ≤ n then
    .error (.outOfBounds "Python int too large to convert to C long")
  else if 0 ≤ n ∧ n.toNat < 0x110000 then .ok (Fin.ofNat 0x110000 n.toNat)
  else .error (.outOfBounds "%c arg not in range(0x110000)")

def ofCharacter (layout : Layout) (n : Int) : Except TemplateFault Text :=
  let place := "with integer format specifier 'c'"
  if layout.sign.isSome then .error (.notAllowed .sign place)
  else if layout.alternate then .error (.notAllowed .alternate place)
  else (character n).map fun c => layout.ofParts false [] [] [c]

/-- The base in which integers of a kind are written, and its mark. -/
def base (kind : CodePoint) : Nat × Text :=
  if kind = CodePoint.ofChar 'b' then (2, "0b")
  else if kind = CodePoint.ofChar 'o' then (8, "0o")
  else if kind = CodePoint.ofChar 'x' then (16, "0x")
  else if kind = CodePoint.ofChar 'X' then (16, "0X")
  else (10, [])

/-- The digits of an integer of a kind, without its sign. -/
def digitsOf (kind : CodePoint) (n : Int) : Text :=
  let digits : Text := (Nat.toDigits (base kind).1 n.natAbs).map CodePoint.ofChar
  if kind = CodePoint.ofChar 'X' then digits.upper else digits

def ofInt (layout : Layout) (typeName : String) (n : Int) : Except TemplateFault Text :=
  if layout.kind.isOneOf "eEfFgG%" then (nearest n).bind layout.ofDouble
  else if !layout.kind.isOneOf "bcdoxXn" then .error (.unknownKind layout.kind typeName)
  else if layout.precision.isSome then
    .error (.notAllowed .precision "in integer format specifier")
  else if layout.unsignedZero then
    .error (.notAllowed .unsignedZero "in integer format specifier")
  else if layout.kind = CodePoint.ofChar 'c' then layout.ofCharacter n
  else
    let mark := if layout.alternate then (base layout.kind).2 else []
    .ok (layout.ofParts (n < 0) mark (digitsOf layout.kind n) [])

end Layout

end Tenancy.Template

namespace Tenancy.Value

open Template

/-- The integer of a truth value or an integer. -/
def integer? : Value → Option Int
  | .int n => some n
  | .bool b => some (if b then 1 else 0)
  | _ => none

def layOut (value : Value) (layout : Text) : Except TemplateFault Text :=
  if layout.isEmpty then .ok value.toText
  else match value, value.integer? with
    | .text t, _ => do
      let layout ← Layout.read value.typeName false (CodePoint.ofChar 's') layout
      if layout.kind = CodePoint.ofChar 's' then layout.ofText t
      else throw (.unknownKind layout.kind value.typeName)
    | .float x, _ => do
      let layout ← Layout.read value.typeName true 0 layout
      if layout.kind.val = 0 ∨ layout.kind.isOneOf "eEfFgGn%" then layout.ofDouble x
      else throw (.unknownKind layout.kind value.typeName)
    | _, some n => do
      let layout ← Layout.read value.typeName true (CodePoint.ofChar 'd') layout
      layout.ofInt value.typeName n
    | _, none => .error (.noLayouts value.typeName)

end Tenancy.Value
