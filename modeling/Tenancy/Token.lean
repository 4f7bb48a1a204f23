import Tenancy.Text.Encoding

/-!
# Tokens

A signup token is a random number of 128 bits, written octet by octet in base 32: five octets are
eight digits, and the last, shorter group has as many digits as its bits need. The digits are
letters and numbers that are hard to mistake for one another.
-/
namespace Tenancy

/-- The random number behind a token. -/
abbrev TokenSeed := Fin (2 ^ 128)

instance (priority := 10000) TokenSeed.count_neZero : @NeZero Nat Zero.ofOfNat0 (2 ^ 128) :=
  ⟨by decide⟩

namespace Token

/-- The thirty-two digits, in ascending order. -/
def alphabet : Text := "ybndrfg8ejkmcpqxot1uwisza345h769"

def groupDigits (a b c d e : Nat) : List Nat :=
  [a / 8, a % 8 * 4 + b / 64, b / 2 % 32, b % 2 * 16 + c / 16, c % 16 * 2 + d / 128, d / 4 % 32,
    d % 4 * 8 + e / 32, e % 32]

/-- The base 32 digits of octets, without padding. -/
def digits : Octets → List Nat
  | a :: b :: c :: d :: e :: rest =>
    groupDigits a.toNat b.toNat c.toNat d.toNat e.toNat ++ digits rest
  | [a, b, c, d] => (groupDigits a.toNat b.toNat c.toNat d.toNat 0).take 7
  | [a, b, c] => (groupDigits a.toNat b.toNat c.toNat 0 0).take 5
  | [a, b] => (groupDigits a.toNat b.toNat 0 0 0).take 4
  | [a] => (groupDigits a.toNat 0 0 0 0).take 2
  | [] => []

def character (digit : Nat) : CodePoint := alphabet.getD digit 0

/-- The sixteen octets of a seed, most significant first. -/
def octets (seed : TokenSeed) : Octets :=
  (List.range 16).map fun place => UInt8.ofNat (seed.val / 256 ^ (15 - place))

/-- Marks octets as drawn at random: four bits of one octet and two of another say so. -/
def markRandom (drawn : Octets) : Octets :=
  drawn.zipIdx.map fun (octet, place) =>
    if place = 6 then (octet &&& 0x0f) ||| 0x40
    else if place = 8 then (octet &&& 0x3f) ||| 0x80
    else octet

def seedOf (octets : Octets) : TokenSeed :=
  Fin.ofNat (2 ^ 128) (octets.foldl (fun n octet => n * 256 + octet.toNat) 0)

def ofSeed (seed : TokenSeed) : Text := (digits (octets seed)).map character

end Token

end Tenancy
