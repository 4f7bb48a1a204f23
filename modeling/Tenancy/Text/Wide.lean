import Tenancy.Text.Encoding

/-!
# UTF-16 and UTF-32

The lenient reading of both: a surrogate that is half of no pair stands for itself.
-/
namespace Tenancy.Wide

def unit (order : ByteOrder) (octets : Octets) : Nat :=
  let ordered := match order with
    | .bigEndian => octets
    | .littleEndian => octets.reverse
  ordered.foldl (fun n octet => n * 0x100 + octet.toNat) 0

/-- The units of sixteen bits, and a last octet that fills none. -/
def units16 (order : ByteOrder) : Octets → List CodePoint × Octets
  | a :: b :: rest =>
    let (units, left) := units16 order rest
    (Fin.ofNat 0x110000 (unit order [a, b]) :: units, left)
  | left => ([], left)

/-- A high surrogate and the low one behind it become the code point they denote. -/
def joinPairs : List CodePoint → Text
  | high :: low :: rest =>
    if high.isHighSurrogate && low.isLowSurrogate then
      CodePoint.joinSurrogates high low :: joinPairs rest
    else high :: joinPairs (low :: rest)
  | rest => rest

/-- The text of octets in UTF-16. `position` counts the octets before them. -/
def decode16 (order : ByteOrder) (position : Nat) (octets : Octets) : Except DecodeFault Text :=
  match units16 order octets with
  | (units, []) => .ok (joinPairs units)
  | (_, left) =>
    .error ⟨.utf16 order, position + octets.length - left.length, left, .truncated⟩

/-- The text of octets in UTF-32. `position` counts the octets before them. -/
def decode32 (order : ByteOrder) (position : Nat) : Octets → Except DecodeFault Text
  | a :: b :: c :: d :: rest =>
    let n := unit order [a, b, c, d]
    if h : n < 0x110000 then
      match decode32 order (position + 4) rest with
      | .ok t => .ok (⟨n, h⟩ :: t)
      | .error fault => .error fault
    else .error ⟨.utf32 order, position, [a, b, c, d], .outOfRange⟩
  | [] => .ok []
  | left => .error ⟨.utf32 order, position, left, .truncated⟩

end Tenancy.Wide
