import Tenancy.Text.Blank
import Tenancy.Text.Digit

/-!
# Integer numerals

Two grammars for an integer in decimal notation, both with white space around it, a sign and single
low lines between digits. A *number literal* takes the digits of every script. A *number field*
takes ASCII digits, and also a fraction of zeros and zeros before the number, with its minus sign
behind them. Neither takes more than 4300 digits.
-/
namespace Tenancy.Numeral

/-- The greatest number of digits that are converted to or from an integer. -/
def digitLimit : Nat := 4300

/-- Why a text is no integer. -/
inductive Fault where
  | malformed
  | tooLong (digits : Nat)
  deriving DecidableEq, Repr

/-- Whether an integer has more digits than are ever written. -/
def isTooLong (n : Int) : Bool := digitLimit < (Nat.toDigits 10 n.natAbs).length

/-- A sign, if there is one, and the rest. -/
def takeSign : Text → Bool × Text
  | 0x2d :: rest => (true, rest)
  | 0x2b :: rest => (false, rest)
  | rest => (false, rest)

/-- The digits at the start of a text, with single low lines between them, and the rest.
`afterDigit` tells whether a low line may come next. -/
def takeDigits (afterDigit : Bool) : Text → Option (List Nat × Text)
  | [] => if afterDigit then some ([], []) else none
  | c :: rest =>
    match c.decimalDigit? with
    | some digit => (takeDigits true rest).map fun (digits, rest) => (digit :: digits, rest)
    | none =>
      if c.val = 0x5f then if afterDigit then takeDigits false rest else none
      else if afterDigit then some ([], c :: rest) else none

def ofDigits (negative : Bool) (digits : List Nat) : Int :=
  let n : Int := (digits.foldl (fun n digit => 10 * n + digit) 0 : Nat)
  if negative then -n else n

def ofLiteral (t : Text) : Except Fault Int :=
  let (negative, body) := takeSign (t.dropWhile CodePoint.isWhiteSpace)
  match takeDigits false body with
  | none => .error .malformed
  | some (digits, rest) =>
    if digitLimit < digits.length then .error (.tooLong digits.length)
    else if rest.all CodePoint.isWhiteSpace then .ok (ofDigits negative digits)
    else .error .malformed

/-- Drops leading zeros, and the low lines among them, but keeps the last place before a fraction or
the end. -/
def dropZeros : Text → Option Text
  -- Behind a zero even a minus sign starts the number. A text that starts with neither a digit nor
  -- a minus sign is refused
  | [] => none
  | c :: rest =>
    if c.val = 0x30 then go c rest
    else if startsNumber c then some (c :: rest)
    else none
where
  /-- A digit or the minus sign. -/
  startsNumber (c : CodePoint) : Bool := c.isDigit || c.val == 0x2d
  /-- `last` is the place before the rest. -/
  go (last : CodePoint) : Text → Option Text
    | [] => some [last]
    | c :: rest =>
      if c.val = 0x30 ∨ c.val = 0x5f then go c rest
      else if startsNumber c then some (c :: rest)
      else if c.val = 0x2e then some (last :: c :: rest)
      else none

/-- Drops a point and the zeros behind it, if nothing else is there. -/
def dropFraction (t : Text) : Text :=
  match Text.cut? (CodePoint.ofChar '.') t with
  | some (whole, fraction) =>
    if !fraction.isEmpty && fraction.all (·.val == 0x30) then whole else t
  | none => t

/-- Whether no low line is at an end of a text or beside another one. `afterLine` tells whether one
has just gone by. -/
def hasSingleLines (afterLine : Bool) : Text → Bool
  | [] => !afterLine
  | c :: rest =>
    let isLine := c.val == 0x5f
    !(afterLine && isLine) && hasSingleLines isLine rest

/-- Drops low lines, if all of them are single and inside the text. -/
def dropLines (t : Text) : Text :=
  if hasSingleLines true t then t.filter (·.val != 0x5f) else t

/-- The integer of plain digits that do not start with a zero, or of a single zero, with or without
a minus sign. -/
def ofPlain (t : Text) : Except Fault Int :=
  -- Too many digits are refused before anything that follows them, and the minus sign counts as one
  let (negative, body) := match t with
    | 0x2d :: rest => (true, rest)
    | rest => (false, rest)
  let digits := body.takeWhile CodePoint.isDigit
  let places := digits.length + if negative then 1 else 0
  match digits with
  | [] => .error .malformed
  | first :: others =>
    if first.val = 0x30 ∧ !others.isEmpty then .error .malformed
    else if digitLimit < places then .error (.tooLong places)
    else if body.length = digits.length then
      .ok (ofDigits negative (digits.map fun c => c.digit?.getD 0))
    else .error .malformed

/-- A text without one plus sign at its start; a minus sign may not follow it. -/
def dropPlus : Text → Option Text
  | 0x2b :: 0x2d :: _ => none
  | 0x2b :: rest => some rest
  | rest => some rest

def ofField (t : Text) : Except Fault Int :=
  match (dropPlus (Text.trim CodePoint.isWhiteSpace t)).bind dropZeros with
  | none => .error .malformed
  | some body => ofPlain (dropLines (dropFraction body))

end Tenancy.Numeral
