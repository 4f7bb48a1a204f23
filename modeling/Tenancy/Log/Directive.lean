import Tenancy.Log.Layout

/-!
# Percent templates

The messages of libraries mark a place by a percent sign and a letter, which says as what the next
argument is shown. Between the two may stand a key in parentheses, flags, a width, a precision and a
letter for a size, which means nothing. A width or precision may be an argument itself, marked by an
asterisk. A single argument that is a dictionary with entries answers the keys.
-/
namespace Tenancy.Template

/-- What stands behind a percent sign. -/
structure Directive where
  /-- To the left in the field. -/
  toLeft : Bool
  /-- A plus sign where there is no minus sign. -/
  plus : Bool
  /-- A blank where there is no sign. -/
  blank : Bool
  /-- The base is marked, or the point and zeros at the end are kept. -/
  alternate : Bool
  /-- Numbers are filled up with zeros. -/
  zeros : Bool
  width : Option Nat
  precision : Option Nat
  letter : CodePoint
  deriving DecidableEq, Repr

/-- The arguments that are left, and the entries that answer keys, if there are any. -/
structure Pending where
  mapping : Option (List (Value × Value))
  arguments : List Value

namespace Pending

def ofArguments : List Value → Pending
  | [.dict (entry :: entries)] => ⟨some (entry :: entries), [.dict (entry :: entries)]⟩
  | [.cycleEntry] => ⟨some [(.text "again", .cycle)], [.cycleEntry]⟩
  | arguments => ⟨none, arguments⟩

/-- The next argument. -/
def next (pending : Pending) : Except TemplateFault (Value × Pending) :=
  match pending.arguments with
  | [] => .error .tooFewArguments
  | value :: rest => .ok (value, { pending with arguments := rest })

/-- The next argument, which has to be an integer. -/
def nextInteger (pending : Pending) : Except TemplateFault (Int × Pending) := do
  let (value, pending) ← pending.next
  match value.integer? with
  | some n => return (n, pending)
  | none => throw (.unfit "* wants int")

end Pending

namespace Directive

/-- The key that ends with the parenthesis in balance, and the rest. -/
def takeKey (depth : Nat) : Text → Except TemplateFault (Text × Text)
  | [] => .error (.malformed "incomplete format key")
  | c :: rest =>
    if c = CodePoint.ofChar ')' ∧ depth = 0 then .ok ([], rest)
    else
      let depth :=
        if c = CodePoint.ofChar '(' then depth + 1
        else if c = CodePoint.ofChar ')' then depth - 1
        else depth
      (takeKey depth rest).map fun (key, rest) => (c :: key, rest)

/-- The rest behind a key, if there is one; its entry is then the only argument left. -/
def takeEntry (pending : Pending) (t : Text) : Except TemplateFault (Pending × Text) :=
  match t with
  | 0x28 :: rest =>
    match pending.mapping with
    | none => .error (.unfit "format requires a mapping")
    | some entries => do
      let (key, rest) ← takeKey 0 rest
      match entries.find? fun (other, _) => Value.sameKey other (.text key) with
      | some (_, value) => return ({ pending with arguments := [value] }, rest)
      | none => throw (.noKey key.quoted)
  | _ => .ok (pending, t)

/-- The number of ASCII digits up to a greatest one. -/
def readNumber (greatest : Nat) (fault : String) (digits : Text) : Except TemplateFault Nat :=
  let n := Text.decimalValue digits
  if greatest < n then .error (.malformed fault) else .ok n

/-- The width, whether it is negative, and the rest. -/
def takeWidth (pending : Pending) (t : Text) :
    Except TemplateFault (Option Int × Pending × Text) :=
  match t with
  | 0x2a :: rest => do
    let (n, pending) ← pending.nextInteger
    if n < -2 ^ 63 ∨ 2 ^ 63 ≤ n then
      throw (.outOfBounds "Python int too large to convert to C ssize_t")
    return (some n, pending, rest)
  | _ =>
    match t.takeWhile CodePoint.isDigit with
    | [] => .ok (none, pending, t)
    | digits => do
      let n ← readNumber greatestNumber "width too big" digits
      return (some n, pending, t.dropWhile CodePoint.isDigit)

/-- The precision and the rest. -/
def takePrecision (pending : Pending) (t : Text) :
    Except TemplateFault (Option Nat × Pending × Text) :=
  -- A point alone means zero
  match t with
  | 0x2e :: 0x2a :: rest => do
    let (n, pending) ← pending.nextInteger
    if n < -2 ^ 31 ∨ 2 ^ 31 ≤ n then
      throw (.outOfBounds "Python int too large to convert to C int")
    return (some n.toNat, pending, rest)
  | 0x2e :: rest => do
    let n ← readNumber Layout.greatestPrecision "precision too big"
      (rest.takeWhile CodePoint.isDigit)
    return (some n, pending, rest.dropWhile CodePoint.isDigit)
  | _ => .ok (none, pending, t)

/-- The directive behind a percent sign, the arguments left then, and the rest. -/
def read (pending : Pending) (t : Text) :
    Except TemplateFault (Directive × Pending × Text) := do
  let (pending, t) ← takeEntry pending t
  let isFlag (c : CodePoint) : Bool := c.isOneOf "-+ #0"
  let has (flag : Char) : Bool := (t.takeWhile isFlag).contains (CodePoint.ofChar flag)
  let (width, pending, rest) ← takeWidth pending (t.dropWhile isFlag)
  let (precision, pending, rest) ← takePrecision pending rest
  let rest := match rest with
    | c :: behind => if c.isOneOf "hlL" then behind else rest
    | [] => []
  match rest with
  | [] => throw (.malformed "incomplete format")
  | letter :: rest =>
    let directive : Directive :=
      { toLeft := has '-' || width.any (· < 0), plus := has '+', blank := has ' '
        alternate := has '#', zeros := has '0', width := width.map Int.natAbs
        precision, letter }
    return (directive, pending, rest)

/-- A text in its field. -/
def inField (directive : Directive) (isNumber : Bool) (sign base body : Text) : Text :=
  -- A number is its sign, what marks its base, and its digits
  let free := directive.width.getD 0 - (sign.length + base.length + body.length)
  let filled (c : CodePoint) : Text := List.replicate free c
  if directive.toLeft then sign ++ base ++ body ++ filled .space
  else if isNumber && directive.zeros then sign ++ base ++ filled (CodePoint.ofChar '0') ++ body
  else filled .space ++ sign ++ base ++ body

def signText (directive : Directive) (negative : Bool) : Text :=
  if negative then "-" else if directive.plus then "+" else if directive.blank then " " else []

/-- A text, shortened to the precision. -/
def showText (directive : Directive) (t : Text) : Text :=
  directive.inField false [] [] (t.take (directive.precision.getD t.length))

/-- An integer; the precision is a least number of digits. -/
def showInt (directive : Directive) (n : Int) : Except TemplateFault Text :=
  if directive.precision.any (Layout.greatestPrecision - 3 < ·) then
    .error (.outOfBounds "precision too large")
  else
    let digits := Layout.digitsOf directive.letter n
    let zeros := List.replicate (directive.precision.getD 0 - digits.length) (CodePoint.ofChar '0')
    let base := if directive.alternate then (Layout.base directive.letter).2 else []
    .ok (directive.inField true (directive.signText (n < 0)) base (zeros ++ digits))

def showDouble (directive : Directive) (x : Double) : Text :=
  let writing : Double.Writing :=
    { form := Layout.form directive.letter
      precision := directive.precision.getD 6
      full := directive.alternate }
  let written := writing.write x
  let written := if directive.letter.isOneOf "EFG" then written.upper else written
  match written with
  | 0x2d :: body => directive.inField true (directive.signText true) [] body
  | body => directive.inField true (directive.signText false) [] body

/-- The integer of an argument. -/
def integerOf (directive : Directive) (value : Value) : Except TemplateFault Int :=
  -- Those that are written in another base than ten do not come from a number with a fraction
  let isDecimal := directive.letter.isOneOf "diu"
  match value.integer?, value with
  | some n, _ => .ok n
  | none, .float x =>
    if isDecimal then (Value.float x).toInt.mapError .conversion
    else .error (.notANumber directive.letter "an integer" value.typeName)
  | none, _ =>
    .error (.notANumber directive.letter (if isDecimal then "a real number" else "an integer")
      value.typeName)

def doubleOf (value : Value) : Except TemplateFault Double :=
  match value.integer?, value with
  | some n, _ => Layout.nearest n
  | none, .float x => .ok x
  | none, _ => .error (.notReal value.typeName)

def characterOf (value : Value) : Except TemplateFault CodePoint :=
  match value, value.integer? with
  | .text [c], _ => .ok c
  | _, some n =>
    if 0 ≤ n ∧ n.toNat < 0x110000 then .ok (Fin.ofNat 0x110000 n.toNat)
    else .error (.outOfBounds "%c arg not in range(0x110000)")
  | _, none => .error (.unfit "%c requires int or char")

/-- An argument as a directive shows it. `index` is the place of the letter. -/
def apply (directive : Directive) (index : Nat) (value : Value) : Except TemplateFault Text :=
  let letter := directive.letter
  if letter = CodePoint.ofChar 's' then .ok (directive.showText value.toText)
  else if letter = CodePoint.ofChar 'r' then .ok (directive.showText value.display)
  else if letter = CodePoint.ofChar 'a' then .ok (directive.showText value.display.inAscii)
  else if letter.isOneOf "diuoxX" then (directive.integerOf value).bind directive.showInt
  else if letter.isOneOf "eEfFgG" then (doubleOf value).map directive.showDouble
  else if letter = CodePoint.ofChar 'c' then
    (characterOf value).map fun c => directive.inField false [] [] [c]
  else .error (.unknownLetter letter index)

end Directive

/-- Fills the places behind percent signs, of which there are at most `fuel`. `length` is that of
the whole template. -/
def expandFrom (length : Nat) : (fuel : Nat) → Pending → Text → Except TemplateFault Text
  | 0, _, t => .ok t
  | fuel + 1, pending, t =>
    match Text.cut? (CodePoint.ofChar '%') t with
    | none =>
      if pending.arguments.isEmpty || pending.mapping.isSome then .ok t
      else .error .tooManyArguments
    | some (before, 0x25 :: rest) => do
      return before ++ "%" ++ (← expandFrom length fuel pending rest)
    | some (before, behind) => do
      let (directive, pending, rest) ← Directive.read pending behind
      let (value, pending) ← pending.next
      let shown ← directive.apply (length - rest.length - 1) value
      return before ++ shown ++ (← expandFrom length fuel pending rest)

/-- Fills the places behind percent signs. -/
def expand (template : Text) (arguments : List Value) : Except TemplateFault Text :=
  -- Without arguments the template is the message
  if arguments.isEmpty then .ok template
  else expandFrom template.length (template.length + 1) (.ofArguments arguments) template

end Tenancy.Template
