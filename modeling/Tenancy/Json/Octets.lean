import Tenancy.Json.Reader
import Tenancy.Text.Utf8
import Tenancy.Text.Wide

/-!
# JSON in octets

A document in octets says by its first octets how it is encoded: by a byte order mark, or else by
where the zeros stand, since its first character is in ASCII.
-/
namespace Tenancy.Json

/-- The encoding that the first octets show, and how many octets the byte order mark has. -/
def detect : Octets → Encoding × Nat
  | 0x00 :: 0x00 :: 0xfe :: 0xff :: _ => (.utf32 .bigEndian, 4)
  | 0xff :: 0xfe :: 0x00 :: 0x00 :: _ => (.utf32 .littleEndian, 4)
  | 0xfe :: 0xff :: _ => (.utf16 .bigEndian, 2)
  | 0xff :: 0xfe :: _ => (.utf16 .littleEndian, 2)
  | 0xef :: 0xbb :: 0xbf :: _ => (.utf8, 3)
  | a :: b :: c :: d :: _ =>
    if a = 0 then (if b = 0 then .utf32 .bigEndian else .utf16 .bigEndian, 0)
    else if b = 0 then (if c = 0 ∧ d = 0 then .utf32 .littleEndian else .utf16 .littleEndian, 0)
    else (.utf8, 0)
  | [a, b] =>
    if a = 0 then (.utf16 .bigEndian, 0)
    else if b = 0 then (.utf16 .littleEndian, 0)
    else (.utf8, 0)
  | _ => (.utf8, 0)

/-- The text of octets in the encoding that they show. -/
def decodeOctets (octets : Octets) : Except DecodeFault Text :=
  -- Positions in a fault count the byte order mark of the wide encodings and not that of UTF-8
  let (encoding, mark) := detect octets
  let body := octets.drop mark
  match encoding with
  | .utf8 => Utf8.decodeLenient body
  | .utf16 order => Wide.decode16 order mark body
  | .utf32 order => Wide.decode32 order mark body

def readOctets (octets : Octets) : Except ReadFault Json :=
  match decodeOctets octets with
  | .ok t => readDecoded t
  | .error fault => .error (.undecodable fault)

end Tenancy.Json
