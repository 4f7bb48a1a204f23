import Tenancy.Text.Utf8

/-!
# Percent encoding

Code points that may not stand in an address for themselves are written as their octets in UTF-8,
each as a percent sign and two hexadecimal digits. A text without octets cannot be written. Reading
is lenient: a percent sign that no two digits follow stands for itself, and octets that are no text
read as U+FFFD.
-/
namespace Tenancy.Percent

/-- What every part of an address may hold as it is. -/
def isUnreserved (c : CodePoint) : Bool :=
  c.isDigit || c.isAsciiUpper || c.isAsciiLower || c.val == 0x5f || c.val == 0x2e || c.val == 0x2d
    || c.val == 0x7e

/-- A hexadecimal digit in upper case. -/
def upperDigit (n : Nat) : CodePoint :=
  if n < 10 then Fin.ofNat 0x110000 (0x30 + n) else Fin.ofNat 0x110000 (0x37 + n)

def encodeOctet (octet : UInt8) : Text :=
  [CodePoint.ofChar '%', upperDigit (octet.toNat / 16), upperDigit (octet.toNat % 16)]

/-- A text with its code points written out; besides the unreserved ones those in `safe` stay. -/
def encode (safe : CodePoint → Bool) (t : Text) : Text :=
  t.flatMap fun c =>
    if isUnreserved c || safe c then [c] else (Utf8.encodePoint c).flatMap encodeOctet

/-- A text with its code points written out for a query, where a plus sign stands for a blank. -/
def encodeQuery (t : Text) : Text :=
  t.flatMap fun c =>
    if c = .space then [CodePoint.ofChar '+'] else encode (fun _ => false) [c]

/-- Writes a text, if it has octets. -/
def write (encoding : Text → Text) (t : Text) : Except EncodeFault Text :=
  match t.encodeFault? with
  | some fault => .error fault
  | none => .ok (encoding t)

/-- The octet that two hexadecimal digits denote. -/
def octet? (high low : CodePoint) : Option UInt8 := do
  return UInt8.ofNat ((← high.hexDigit?) * 16 + (← low.hexDigit?))

/-- What a text is made of: octets, and code points outside ASCII, which stand for themselves. -/
def units : Text → List (UInt8 ⊕ CodePoint)
  | [] => []
  | c :: rest =>
    if c.val < 0x80 then
      match c.val == 0x25, rest with
      | true, high :: low :: behind =>
        match octet? high low with
        | some octet => .inl octet :: units behind
        | none => .inl (UInt8.ofNat c.val) :: units (high :: low :: behind)
      | _, rest => .inl (UInt8.ofNat c.val) :: units rest
    else .inr c :: units rest

/-- The text of what stands between two code points outside ASCII, and so on. `pending` are the
octets since the last such code point, the last one first. -/
def gather (pending : Octets) : List (UInt8 ⊕ CodePoint) → Text
  | [] => Utf8.decodeReplacing pending.reverse
  | .inl octet :: rest => gather (octet :: pending) rest
  | .inr c :: rest => Utf8.decodeReplacing pending.reverse ++ c :: gather [] rest

/-- Reads a text. -/
def decode (t : Text) : Text := gather [] (units t)

def decodeQuery (t : Text) : Text :=
  decode (t.map fun c => if c.val = 0x2b then .space else c)

end Tenancy.Percent
