import Tenancy.Text.Encoding

/-!
# UTF-8

A code point has one to four octets. The lead octet fixes how many follow it and, where shorter
sequences, surrogates or numbers above U+10FFFF have to be kept out, the range of the first that
follows. The lenient reading also takes the three octets that a surrogate would have.
-/
namespace Tenancy.Utf8

/-- The octets of a code point; those of a surrogate follow the same pattern. -/
def encodePoint (c : CodePoint) : Octets :=
  let n := c.val
  if n < 0x80 then [UInt8.ofNat n]
  else if n < 0x800 then [UInt8.ofNat (0xc0 + n / 0x40), UInt8.ofNat (0x80 + n % 0x40)]
  else if n < 0x10000 then
    [UInt8.ofNat (0xe0 + n / 0x1000), UInt8.ofNat (0x80 + n / 0x40 % 0x40),
      UInt8.ofNat (0x80 + n % 0x40)]
  else
    [UInt8.ofNat (0xf0 + n / 0x40000), UInt8.ofNat (0x80 + n / 0x1000 % 0x40),
      UInt8.ofNat (0x80 + n / 0x40 % 0x40), UInt8.ofNat (0x80 + n % 0x40)]

/-- The octets of a text without surrogates. -/
def encode (t : Text) : Except EncodeFault Octets :=
  match t.encodeFault? with
  | some fault => .error fault
  | none => .ok (t.flatMap encodePoint)

/-- What a lead octet promises: its bits, how many octets follow, and the first one's range. -/
structure Lead where
  bits : Nat
  tails : Nat
  low : Nat
  high : Nat

/-- The lead octets of sequences of two to four octets. -/
def lead? (octet : UInt8) : Option Lead :=
  let b := octet.toNat
  if 0xc2 ≤ b ∧ b ≤ 0xdf then some ⟨b - 0xc0, 1, 0x80, 0xbf⟩
  else if b = 0xe0 then some ⟨0, 2, 0xa0, 0xbf⟩
  else if b = 0xed then some ⟨0xd, 2, 0x80, 0x9f⟩
  else if 0xe1 ≤ b ∧ b ≤ 0xef then some ⟨b - 0xe0, 2, 0x80, 0xbf⟩
  else if b = 0xf0 then some ⟨0, 3, 0x90, 0xbf⟩
  else if 0xf1 ≤ b ∧ b ≤ 0xf3 then some ⟨b - 0xf0, 3, 0x80, 0xbf⟩
  else if b = 0xf4 then some ⟨4, 3, 0x80, 0x8f⟩
  else none

/-- The octets that follow a lead octet: the number so far, how many are read, and the flaw that
stops the reading. -/
def readTails : (tails low high bits taken : Nat) → Octets → Nat × Nat × Option OctetFlaw
  | 0, _, _, bits, taken, _ => (bits, taken, none)
  | _ + 1, _, _, bits, taken, [] => (bits, taken, some .unexpectedEnd)
  | tails + 1, low, high, bits, taken, octet :: rest =>
    if low ≤ octet.toNat ∧ octet.toNat ≤ high then
      readTails tails 0x80 0xbf (bits * 0x40 + (octet.toNat - 0x80)) (taken + 1) rest
    else (bits, taken, some .invalidContinuation)

/-- The first code point and how many octets it has, or the flaw and how many octets it spans. -/
def step (lenient : Bool) (octet : UInt8) (rest : Octets) :
    Except (OctetFlaw × Nat) (CodePoint × Nat) :=
  if octet.toNat < 0x80 then .ok (Fin.ofNat 0x110000 octet.toNat, 1)
  else match lead? octet with
    | none => .error (.invalidStart, 1)
    | some lead =>
      let high := if lenient && lead.bits == 0xd && lead.tails == 2 then 0xbf else lead.high
      match readTails lead.tails lead.low high lead.bits 1 rest with
      | (bits, taken, none) => .ok (Fin.ofNat 0x110000 bits, taken)
      | (_, taken, some flaw) =>
        match readTails lead.tails lead.low lead.high lead.bits 1 rest with
        | (_, strict, some sooner) => .error (sooner, strict)
        | (_, _, none) => .error (flaw, taken)

/-- Decodes at most `fuel` code points; every code point has at least one octet. -/
def decodeFrom (lenient : Bool) : (fuel position : Nat) → Octets → Except DecodeFault Text
  | 0, _, _ => .ok []
  | _ + 1, _, [] => .ok []
  | fuel + 1, position, octet :: rest =>
    match step lenient octet rest with
    | .ok (c, taken) =>
      match decodeFrom lenient fuel (position + taken) (rest.drop (taken - 1)) with
      | .ok t => .ok (c :: t)
      | .error fault => .error fault
    | .error (flaw, span) => .error ⟨.utf8, position, (octet :: rest).take span, flaw⟩

/-- The text of octets. -/
def decode (octets : Octets) : Except DecodeFault Text :=
  decodeFrom false octets.length 0 octets

/-- The text of octets, where a surrogate may stand for itself. -/
def decodeLenient (octets : Octets) : Except DecodeFault Text :=
  decodeFrom true octets.length 0 octets

/-- Decodes at most `fuel` code points; a stretch of octets that is no text reads as U+FFFD. -/
def replaceFrom : (fuel : Nat) → Octets → Text
  | 0, _ => []
  | _ + 1, [] => []
  | fuel + 1, octet :: rest =>
    match step false octet rest with
    | .ok (c, taken) => c :: replaceFrom fuel (rest.drop (taken - 1))
    | .error (_, span) => 0xfffd :: replaceFrom fuel (rest.drop (span - 1))

/-- The text of octets, with U+FFFD for each stretch that is no text. -/
def decodeReplacing (octets : Octets) : Text := replaceFrom octets.length octets

end Tenancy.Utf8
