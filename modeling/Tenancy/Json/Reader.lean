import Tenancy.Json.Basic
import Tenancy.Numeral
import Tenancy.Text.Blank
import Tenancy.Text.Encoding

/-!
# Reading JSON

The grammar is that of the standard with three extensions: the numbers `NaN`, `Infinity` and
`-Infinity`, surrogates (an escaped high one joins an escaped low one that follows at once), and
repeated names, of which the last value counts. Blanks are the four of the standard. An integer of
more than 4300 digits is refused although it is in the grammar. Documents may nest to any depth: how
deep an interpreter can follow them depends on the stack that it runs on.

A failure names what was expected and where: the position of the first code point that does not
fit, which is where the reading stops.
-/
namespace Tenancy.Json

/-- What does not fit the grammar. -/
inductive Problem where
  | valueExpected
  | nameExpected
  | colonExpected
  | commaExpected
  | extraData
  | unterminatedString
  | controlCharacter
  | badEscape
  | badUnicodeEscape
  | byteOrderMark
  deriving DecidableEq, Repr

def Problem.message : Problem → String
  | .valueExpected => "Expecting value"
  | .nameExpected => "Expecting property name enclosed in double quotes"
  | .colonExpected => "Expecting ':' delimiter"
  | .commaExpected => "Expecting ',' delimiter"
  | .extraData => "Extra data"
  | .unterminatedString => "Unterminated string starting at"
  | .controlCharacter => "Invalid control character at"
  | .badEscape => "Invalid \\escape"
  | .badUnicodeEscape => "Invalid \\uXXXX escape"
  | .byteOrderMark => "Unexpected UTF-8 BOM (decode using utf-8-sig)"

/-- Where and why a text is no document. Lines and columns count from one. -/
structure SyntaxFault where
  problem : Problem
  position : Nat
  line : Nat
  column : Nat
  deriving DecidableEq, Repr

def SyntaxFault.message (fault : SyntaxFault) : Text :=
  Text.ofString fault.problem.message ++ ": line " ++ Text.ofNat fault.line ++ " column "
    ++ Text.ofNat fault.column ++ " (char " ++ Text.ofNat fault.position ++ ")"

def SyntaxFault.at (problem : Problem) (position : Nat) (t : Text) : SyntaxFault :=
  let before := t.take position
  ⟨problem, position, before.count .newline + 1,
    (before.reverse.takeWhile (· != .newline)).length + 1⟩

/-- Why a text or octets are not read. -/
inductive ReadFault where
  | malformed (fault : SyntaxFault)
  | integerTooLong (digits : Nat)
  | undecodable (fault : DecodeFault)
  deriving DecidableEq, Repr

/-- Why the reading stops: a problem and the text from there on, or an integer of too many
digits. -/
inductive Stop where
  | problem (problem : Problem) (rest : Text)
  | integerTooLong (digits : Nat)

/-- The text behind its leading blanks. -/
def skipBlanks (t : Text) : Text := t.dropWhile CodePoint.isJsonBlank

/-- The character that an escape of one letter denotes. -/
def escaped? (c : CodePoint) : Option CodePoint :=
  if c = .quote then some .quote
  else if c = .backslash then some .backslash
  else if c = CodePoint.ofChar '/' then some c
  else if c = CodePoint.ofChar 'b' then some 0x08
  else if c = CodePoint.ofChar 'f' then some 0x0c
  else if c = CodePoint.ofChar 'n' then some 0x0a
  else if c = CodePoint.ofChar 'r' then some 0x0d
  else if c = CodePoint.ofChar 't' then some 0x09
  else none

/-- The unit that four hexadecimal digits denote. -/
def unit? (a b c d : CodePoint) : Option CodePoint :=
  match a.hexDigit?, b.hexDigit?, c.hexDigit?, d.hexDigit? with
  | some a, some b, some c, some d =>
    some (Fin.ofNat 0x110000 (a * 0x1000 + b * 0x100 + c * 0x10 + d))
  | _, _, _, _ => none

/-- The escape behind `\u`: the code point it denotes and the text behind it. Four digits and one
more character have to follow. A high surrogate takes a low one with it that is escaped at once
behind it, where again one more character has to follow. `mark` is the text from the `u` on. -/
def readUnicodeEscape (mark : Text) : Text → Except Stop (CodePoint × Text)
  | a :: b :: c :: d :: next :: rest =>
    match unit? a b c d with
    | none => .error (.problem .badUnicodeEscape mark)
    | some high =>
      if high.isHighSurrogate then
        match next :: rest with
        | 0x5c :: 0x75 :: a :: b :: c :: d :: behind :: tail =>
          match unit? a b c d with
          | none => .error (.problem .badUnicodeEscape (0x75 :: a :: b :: c :: d :: behind :: tail))
          | some low =>
            if low.isLowSurrogate then .ok (CodePoint.joinSurrogates high low, behind :: tail)
            else .ok (high, next :: rest)
        | _ => .ok (high, next :: rest)
      else .ok (high, next :: rest)
  | _ => .error (.problem .badUnicodeEscape mark)

/-- The string whose opening quotation mark stands at `opening`; it is read from behind the mark
on. Every step consumes at least one code point of at most `fuel`. -/
def readString (opening : Text) : (fuel : Nat) → Text → Except Stop (Text × Text)
  | 0, _ => .error (.problem .unterminatedString opening)
  | _ + 1, [] => .error (.problem .unterminatedString opening)
  | fuel + 1, c :: rest =>
    if c = .quote then .ok ([], rest)
    else if c = .backslash then
      match rest with
      | [] => .error (.problem .unterminatedString opening)
      | letter :: rest =>
        if letter = CodePoint.ofChar 'u' then do
          let (point, rest) ← readUnicodeEscape (letter :: rest) rest
          let (t, rest) ← readString opening fuel rest
          .ok (point :: t, rest)
        else match escaped? letter with
          | some point => do
            let (t, rest) ← readString opening fuel rest
            .ok (point :: t, rest)
          | none => .error (.problem .badEscape (c :: letter :: rest))
    else if c.val < 0x20 then .error (.problem .controlCharacter (c :: rest))
    else do
      let (t, rest) ← readString opening fuel rest
      .ok (c :: t, rest)

/-- The digits of a whole part, which has no leading zeros, and the text behind them. -/
def takeWhole : Text → Option (Text × Text)
  | 0x30 :: rest => some ([0x30], rest)
  | t =>
    match t.takeWhile CodePoint.isDigit with
    | [] => none
    | digits => some (digits, t.dropWhile CodePoint.isDigit)

/-- The digits behind a point, and the text behind them; there is no fraction without digits. -/
def takeFraction : Text → Option (Text × Text)
  | 0x2e :: rest =>
    match rest.takeWhile CodePoint.isDigit with
    | [] => none
    | digits => some (digits, rest.dropWhile CodePoint.isDigit)
  | _ => none

/-- The exponent behind its mark, and the text behind it; there is no exponent without digits. -/
def takeExponent : Text → Option (Int × Text)
  | mark :: rest =>
    if mark = CodePoint.ofChar 'e' ∨ mark = CodePoint.ofChar 'E' then
      let (below, rest) := Numeral.takeSign rest
      match rest.takeWhile CodePoint.isDigit with
      | [] => none
      | digits =>
        let magnitude : Int := Text.decimalValue digits
        some (if below then -magnitude else magnitude, rest.dropWhile CodePoint.isDigit)
    else none
  | [] => none

/-- The number at the start of a text. `start` is where a failure is reported. -/
def readNumber (start : Text) (negative : Bool) (t : Text) : Except Stop (Json × Text) :=
  match takeWhole t with
  | none => .error (.problem .valueExpected start)
  | some (whole, rest) =>
    match takeFraction rest, takeExponent ((takeFraction rest).elim rest (·.2)) with
    | none, none =>
      if Numeral.digitLimit < whole.length then .error (.integerTooLong whole.length)
      else
        let n : Int := Text.decimalValue whole
        .ok (.int (if negative then -n else n), rest)
    | fraction, exponent =>
      let digits := fraction.elim [] (·.1)
      let behind := exponent.elim (fraction.elim rest (·.2)) (·.2)
      .ok (.number (Double.ofDigits negative whole digits (exponent.elim 0 (·.1))), behind)

/-- The words that are values by themselves. -/
def words : List (Text × Json) :=
  [(Text.ofString "null", .null), (Text.ofString "true", .bool true),
    (Text.ofString "false", .bool false), (Text.ofString "NaN", .number .nan),
    (Text.ofString "Infinity", .number (.infinite false)),
    (Text.ofString "-Infinity", .number (.infinite true))]

/-- A word or a number at the start of a text. -/
def readScalar (t : Text) : Except Stop (Json × Text) :=
  match words.findSome? fun (word, value) => (Text.after? word t).map fun rest => (value, rest) with
  | some reading => .ok reading
  | none =>
    match t with
    | 0x2d :: rest => readNumber t true rest
    | _ => readNumber t false t

mutual

/-- The value at the start of a text. -/
def readValue : (fuel : Nat) → Text → Except Stop (Json × Text)
  | 0, t => .error (.problem .valueExpected t)
  | _ + 1, [] => .error (.problem .valueExpected [])
  | fuel + 1, c :: rest =>
    if c = .quote then do
      let (t, rest) ← readString (c :: rest) rest.length.succ rest
      .ok (.string t, rest)
    else if c = CodePoint.ofChar '[' then
      match skipBlanks rest with
      | 0x5d :: rest => .ok (.array [], rest)
      | rest => do
        let (items, rest) ← readItems fuel rest
        .ok (.array items, rest)
    else if c = CodePoint.ofChar '\x7b' then
      match skipBlanks rest with
      | 0x7d :: rest => .ok (.object [], rest)
      | rest => do
        let (members, rest) ← readMembers fuel rest
        .ok (.object (collapse members), rest)
    else readScalar (c :: rest)

/-- The elements of an array up to its closing bracket. -/
def readItems : (fuel : Nat) → Text → Except Stop (List Json × Text)
  | 0, t => .error (.problem .valueExpected t)
  | fuel + 1, t => do
    let (item, rest) ← readValue fuel t
    match skipBlanks rest with
    | 0x5d :: rest => .ok ([item], rest)
    | 0x2c :: rest =>
      let (items, rest) ← readItems fuel (skipBlanks rest)
      .ok (item :: items, rest)
    | rest => .error (.problem .commaExpected rest)

/-- The members of an object up to its closing brace, repeated names included. -/
def readMembers : (fuel : Nat) → Text → Except Stop (List (Text × Json) × Text)
  | fuel + 1, 0x22 :: rest => do
    let (name, rest) ← readString (0x22 :: rest) rest.length.succ rest
    match skipBlanks rest with
    | 0x3a :: rest =>
      let (value, rest) ← readValue fuel (skipBlanks rest)
      match skipBlanks rest with
      | 0x7d :: rest => .ok ([(name, value)], rest)
      | 0x2c :: rest =>
        let (members, rest) ← readMembers fuel (skipBlanks rest)
        .ok ((name, value) :: members, rest)
      | rest => .error (.problem .commaExpected rest)
    | rest => .error (.problem .colonExpected rest)
  | _, t => .error (.problem .nameExpected t)

end

/-- A document with blanks around it and nothing else. -/
def readDocument (t : Text) : Except Stop Json := do
  -- Each code point takes at most two steps
  let (document, rest) ← readValue (2 * t.length + 2) (skipBlanks t)
  match skipBlanks rest with
  | [] => .ok document
  | rest => .error (.problem .extraData rest)

def Stop.fault (t : Text) : Stop → ReadFault
  | .problem cause rest => .malformed (.at cause (t.length - rest.length) t)
  | .integerTooLong digits => .integerTooLong digits

/-- The document that a text is, whatever it starts with. -/
def readDecoded (t : Text) : Except ReadFault Json :=
  match readDocument t with
  | .ok document => .ok document
  | .error stop => .error (stop.fault t)

/-- The document that a text is, however deep it nests. -/
def read (t : Text) : Except ReadFault Json :=
  -- A byte order mark is no part of a text
  match t with
  | 0xfeff :: _ => .error (.malformed (.at .byteOrderMark 0 t))
  | _ => readDecoded t

end Tenancy.Json
