import Tenancy.Text.Basic

/-!
# Encodings

The encodings in which text is stored as octets, and the two ways in which a conversion fails:
octets that are no text, and surrogates, which no encoding of the standard represents.
-/
namespace Tenancy

/-- An octet string. -/
abbrev Octets := List UInt8

/-- Which octet of a unit comes first. -/
inductive ByteOrder where
  | littleEndian
  | bigEndian
  deriving DecidableEq, Repr

/-- An encoding of text. -/
inductive Encoding where
  | utf8
  | utf16 (order : ByteOrder)
  | utf32 (order : ByteOrder)
  deriving DecidableEq, Repr

def Encoding.name : Encoding → String
  | .utf8 => "utf-8"
  | .utf16 .littleEndian => "utf-16-le"
  | .utf16 .bigEndian => "utf-16-be"
  | .utf32 .littleEndian => "utf-32-le"
  | .utf32 .bigEndian => "utf-32-be"

/-- What is wrong with a stretch of octets. -/
inductive OctetFlaw where
  /-- No sequence starts with this octet. -/
  | invalidStart
  /-- A sequence has begun and goes on with an octet that cannot be part of it. -/
  | invalidContinuation
  /-- The octets end inside a sequence. -/
  | unexpectedEnd
  /-- The octets end inside a unit. -/
  | truncated
  /-- The unit is above U+10FFFF. -/
  | outOfRange
  deriving DecidableEq, Repr

def OctetFlaw.message : OctetFlaw → String
  | .invalidStart => "invalid start byte"
  | .invalidContinuation => "invalid continuation byte"
  | .unexpectedEnd => "unexpected end of data"
  | .truncated => "truncated data"
  | .outOfRange => "code point not in range(0x110000)"

/-- Octets that are no text: the first offending stretch, and where it starts. -/
structure DecodeFault where
  encoding : Encoding
  position : Nat
  offending : Octets
  flaw : OctetFlaw
  deriving DecidableEq, Repr

/-- What cannot be decoded: a single octet is shown, several are given by their positions. -/
def DecodeFault.subject (fault : DecodeFault) : Text :=
  let octets : Text := match fault.offending with
    | [octet] => "byte 0x" ++ Text.hex 2 octet.toNat ++ " in position " ++ Text.ofNat fault.position
    | several =>
      "bytes in position " ++ Text.ofNat fault.position ++ "-"
        ++ Text.ofNat (fault.position + several.length - 1)
  "'" ++ Text.ofString fault.encoding.name ++ "' codec can't decode " ++ octets

/-- What cannot be decoded, and why. -/
def DecodeFault.message (fault : DecodeFault) : Text :=
  fault.subject ++ ": " ++ Text.ofString fault.flaw.message

/-- Text that has no octets: its first run of surrogates, and where the run starts. -/
structure EncodeFault where
  position : Nat
  surrogates : Text
  deriving DecidableEq, Repr

/-- A single surrogate is shown by its number, several are given by their positions. -/
def EncodeFault.message (fault : EncodeFault) : Text :=
  let subject : Text := match fault.surrogates with
    | [c] => "character '\\u" ++ Text.hex 4 c.val ++ "' in position " ++ Text.ofNat fault.position
    | several =>
      "characters in position " ++ Text.ofNat fault.position ++ "-"
        ++ Text.ofNat (fault.position + several.length - 1)
  "'utf-8' codec can't encode " ++ subject ++ ": surrogates not allowed"

/-- The first run of surrogates in a text. -/
def Text.encodeFault? (t : Text) : Option EncodeFault :=
  match t.dropWhile (!·.isSurrogate) with
  | [] => none
  | rest => some ⟨t.length - rest.length, rest.takeWhile (·.isSurrogate)⟩

end Tenancy
