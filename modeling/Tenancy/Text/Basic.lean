/-!
# Text

A text is a list of code points. Surrogates count as code points, because an escape in a JSON
document can denote either half of a pair alone, and a value that holds one is stored and read
back like any other.
-/
namespace Tenancy

/-- Powers are those of the core library, whatever else a module imports. -/
@[default_instance 10000]
instance (priority := 10000) corePow {α : Type} [NatPow α] : Pow α Nat := instPowNat

/-- A code point, surrogates included. -/
abbrev CodePoint := Fin 0x110000

instance (priority := 10000) CodePoint.count_neZero : @NeZero Nat Zero.ofOfNat0 0x110000 :=
  ⟨by decide⟩

/-- A text, in reading order. -/
abbrev Text := List CodePoint

namespace CodePoint

/-- The code point of a character, which is never a surrogate. -/
def ofChar (c : Char) : CodePoint :=
  ⟨c.toNat, by
    rcases c.valid with h | ⟨_, h⟩
    · exact Nat.lt_trans h (by decide)
    · exact h⟩

instance : Coe Char CodePoint := ⟨ofChar⟩

/-- `"` -/
def quote : CodePoint := 0x22

/-- `'` -/
def apostrophe : CodePoint := 0x27

/-- `\` -/
def backslash : CodePoint := 0x5c

/-- The line feed, U+000A. -/
def newline : CodePoint := 0x0a

/-- The blank, U+0020. -/
def space : CodePoint := 0x20

/-- The first half of a surrogate pair. -/
def isHighSurrogate (c : CodePoint) : Bool := 0xd800 ≤ c.val && c.val ≤ 0xdbff

/-- The second half of a surrogate pair. -/
def isLowSurrogate (c : CodePoint) : Bool := 0xdc00 ≤ c.val && c.val ≤ 0xdfff

/-- Either half of a surrogate pair. -/
def isSurrogate (c : CodePoint) : Bool := 0xd800 ≤ c.val && c.val ≤ 0xdfff

/-- The code point that a surrogate pair denotes. -/
def joinSurrogates (high low : CodePoint) : CodePoint :=
  Fin.ofNat 0x110000 (0x10000 + (high.val - 0xd800) * 0x400 + (low.val - 0xdc00))

/-- The surrogate pair that denotes a code point above U+FFFF. -/
def splitSurrogates (c : CodePoint) : CodePoint × CodePoint :=
  (Fin.ofNat 0x110000 (0xd800 + (c.val - 0x10000) / 0x400),
    Fin.ofNat 0x110000 (0xdc00 + (c.val - 0x10000) % 0x400))

/-- One of the ten ASCII digits. -/
def isDigit (c : CodePoint) : Bool := 0x30 ≤ c.val && c.val ≤ 0x39

/-- The value of an ASCII digit. -/
def digit? (c : CodePoint) : Option Nat :=
  if c.isDigit then some (c.val - 0x30) else none

/-- The value of an ASCII hexadecimal digit in either case. -/
def hexDigit? (c : CodePoint) : Option Nat :=
  if c.isDigit then some (c.val - 0x30)
  else if 0x61 ≤ c.val ∧ c.val ≤ 0x66 then some (c.val - 0x57)
  else if 0x41 ≤ c.val ∧ c.val ≤ 0x46 then some (c.val - 0x37)
  else none

/-- A Latin letter from A to Z. -/
def isAsciiUpper (c : CodePoint) : Bool := 0x41 ≤ c.val && c.val ≤ 0x5a

/-- A Latin letter from a to z. -/
def isAsciiLower (c : CodePoint) : Bool := 0x61 ≤ c.val && c.val ≤ 0x7a

/-- The letters A to Z become a to z; nothing else changes. -/
def asciiLower (c : CodePoint) : CodePoint :=
  if c.isAsciiUpper then Fin.ofNat 0x110000 (c.val + 0x20) else c

/-- The digit character of a number below sixteen, in lower case. -/
def ofDigit (n : Nat) : CodePoint :=
  if n < 10 then Fin.ofNat 0x110000 (0x30 + n) else Fin.ofNat 0x110000 (0x57 + n)

end CodePoint

namespace Text

def ofString (s : String) : Text := s.toList.map CodePoint.ofChar

instance : Coe String Text := ⟨ofString⟩

/-- The string of a text; a surrogate, which no string can hold, becomes U+FFFD. -/
def toString (t : Text) : String :=
  String.ofList (t.map fun c => if c.isSurrogate then '\ufffd' else Char.ofNat c.val)

/-- Decimal digits, without leading zeros. -/
def ofNat (n : Nat) : Text := (Nat.toDigits 10 n).map CodePoint.ofChar

/-- Decimal digits behind a minus sign where the number is negative. -/
def ofInt : Int → Text
  | .ofNat n => ofNat n
  | .negSucc n => CodePoint.ofChar '-' :: ofNat (n + 1)

/-- Hexadecimal digits in lower case, filled up with zeros to a width. -/
def hex (width n : Nat) : Text :=
  let digits := (Nat.toDigits 16 n).map CodePoint.ofChar
  List.replicate (width - digits.length) (CodePoint.ofChar '0') ++ digits

/-- The number that a list of ASCII digits denotes; anything else counts as zero. -/
def decimalValue (digits : Text) : Nat :=
  digits.foldl (fun n c => 10 * n + (c.digit?.getD 0)) 0

/-- The texts of a list with a separator between them. -/
def join (separator : Text) : List Text → Text
  | [] => []
  | [t] => t
  | t :: rest => t ++ separator ++ join separator rest

/-- The pieces between the occurrences of a code point; one more than there are occurrences. -/
def splitOn (separator : CodePoint) : Text → List Text
  | [] => [[]]
  | c :: rest =>
    if c = separator then [] :: splitOn separator rest
    else match splitOn separator rest with
      | [] => [[c]]
      | piece :: pieces => (c :: piece) :: pieces

/-- The text before the first occurrence of a code point and the text after it, if it occurs. -/
def cut? (separator : CodePoint) : Text → Option (Text × Text)
  | [] => none
  | c :: rest =>
    if c = separator then some ([], rest)
    else (cut? separator rest).map fun (before, behind) => (c :: before, behind)

/-- The text before the last occurrence of a code point and the text after it, if it occurs. -/
def cutLast? (separator : CodePoint) (t : Text) : Option (Text × Text) :=
  (cut? separator t.reverse).map fun (behind, before) => (before.reverse, behind.reverse)

/-- The text before the first code point of a class, and the rest. -/
def cutBefore (stop : CodePoint → Bool) (t : Text) : Text × Text :=
  (t.takeWhile fun c => !stop c, t.dropWhile fun c => !stop c)

/-- The text less the code points of a class at its two ends. -/
def trim (blank : CodePoint → Bool) (t : Text) : Text :=
  ((t.dropWhile blank).reverse.dropWhile blank).reverse

/-- The text less the code points of a class at its end. -/
def trimEnd (blank : CodePoint → Bool) (t : Text) : Text :=
  (t.reverse.dropWhile blank).reverse

/-- The rest of a text behind a given beginning. -/
def after? : (start t : Text) → Option Text
  | [], t => some t
  | _ :: _, [] => none
  | a :: start, c :: t => if a = c then after? start t else none

/-- The text filled up with blanks to a width. -/
def padEnd (width : Nat) (t : Text) : Text :=
  t ++ List.replicate (width - t.length) CodePoint.space

/-- Order by code points; a beginning of a text comes before it. -/
def le : Text → Text → Bool
  | [], _ => true
  | _ :: _, [] => false
  | a :: s, b :: t => if a = b then le s t else a.val < b.val

/-- The letters A to Z become a to z; nothing else changes. -/
def asciiLower (t : Text) : Text := t.map CodePoint.asciiLower

end Text

/-- Whether a code point is one of the characters of a string. -/
def CodePoint.isOneOf (s : String) (c : CodePoint) : Bool := (Text.ofString s).contains c

end Tenancy
