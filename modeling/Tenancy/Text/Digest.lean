import Tenancy.Text.Encoding

/-!
# Digests

The digest of octets by the MD5 algorithm. It serves to tell long names apart once they are cut,
and nothing else.
-/
namespace Tenancy.Digest

/-- The four words of the state. -/
structure State where
  a : UInt32
  b : UInt32
  c : UInt32
  d : UInt32

/-- The state before the first block. -/
def State.initial : State := ⟨0x67452301, 0xefcdab89, 0x98badcfe, 0x10325476⟩

/-- The constants of the sixty-four steps: the sines of one to sixty-four, without sign and scaled
to a word. -/
def constants : List UInt32 :=
  [0xd76aa478, 0xe8c7b756, 0x242070db, 0xc1bdceee, 0xf57c0faf, 0x4787c62a, 0xa8304613, 0xfd469501,
    0x698098d8, 0x8b44f7af, 0xffff5bb1, 0x895cd7be, 0x6b901122, 0xfd987193, 0xa679438e, 0x49b40821,
    0xf61e2562, 0xc040b340, 0x265e5a51, 0xe9b6c7aa, 0xd62f105d, 0x02441453, 0xd8a1e681, 0xe7d3fbc8,
    0x21e1cde6, 0xc33707d6, 0xf4d50d87, 0x455a14ed, 0xa9e3e905, 0xfcefa3f8, 0x676f02d9, 0x8d2a4c8a,
    0xfffa3942, 0x8771f681, 0x6d9d6122, 0xfde5380c, 0xa4beea44, 0x4bdecfa9, 0xf6bb4b60, 0xbebfbc70,
    0x289b7ec6, 0xeaa127fa, 0xd4ef3085, 0x04881d05, 0xd9d4d039, 0xe6db99e5, 0x1fa27cf8, 0xc4ac5665,
    0xf4292244, 0x432aff97, 0xab9423a7, 0xfc93a039, 0x655b59c3, 0x8f0ccc92, 0xffeff47d, 0x85845dd1,
    0x6fa87e4f, 0xfe2ce6e0, 0xa3014314, 0x4e0811a1, 0xf7537e82, 0xbd3af235, 0x2ad7d2bb, 0xeb86d391]

/-- How far each step rotates: four amounts in turn, other ones in each round of sixteen steps. -/
def rotations : List (List UInt32) :=
  [[7, 12, 17, 22], [5, 9, 14, 20], [4, 11, 16, 23], [6, 10, 15, 21]]

def rotate (word amount : UInt32) : UInt32 := (word <<< amount) ||| (word >>> (32 - amount))

/-- What a step mixes of the state, and the place of the word that it takes from the block. -/
def mix (state : State) (step : Nat) : UInt32 × Nat :=
  match step / 16 with
  | 0 => ((state.b &&& state.c) ||| (~~~state.b &&& state.d), step)
  | 1 => ((state.d &&& state.b) ||| (~~~state.d &&& state.c), (5 * step + 1) % 16)
  | 2 => (state.b ^^^ state.c ^^^ state.d, (3 * step + 5) % 16)
  | _ => (state.c ^^^ (state.b ||| ~~~state.d), 7 * step % 16)

def advance (block : List UInt32) (state : State) (step : Nat) : State :=
  let (mixed, place) := mix state step
  let sum := mixed + state.a + constants.getD step 0 + block.getD place 0
  let amount := (rotations.getD (step / 16) []).getD (step % 4) 0
  ⟨state.d, state.b + rotate sum amount, state.b, state.c⟩

def absorb (state : State) (block : List UInt32) : State :=
  let after := (List.range 64).foldl (advance block) state
  ⟨state.a + after.a, state.b + after.b, state.c + after.c, state.d + after.d⟩

/-- The words of octets, least significant octet first. -/
def words : Octets → List UInt32
  | a :: b :: c :: d :: rest =>
    (a.toUInt32 ||| (b.toUInt32 <<< 8) ||| (c.toUInt32 <<< 16) ||| (d.toUInt32 <<< 24))
      :: words rest
  | _ => []

/-- The octets of a number, least significant first. -/
def octets (count n : Nat) : Octets :=
  (List.range count).map fun place => UInt8.ofNat (n / 256 ^ place)

/-- Octets filled up to whole blocks, with a mark behind them and their number of bits at the
end. -/
def pad (data : Octets) : Octets :=
  data ++ 0x80 :: List.replicate ((119 - data.length % 64) % 64) 0 ++ octets 8 (8 * data.length)

/-- The state after at most `fuel` blocks of sixteen words. -/
def absorbAll : (fuel : Nat) → State → List UInt32 → State
  | 0, state, _ => state
  | fuel + 1, state, rest => absorbAll fuel (absorb state (rest.take 16)) (rest.drop 16)

/-- The digest of octets. -/
def md5 (data : Octets) : Octets :=
  let all := words (pad data)
  let state := absorbAll (all.length / 16) .initial all
  [state.a, state.b, state.c, state.d].flatMap fun word => octets 4 word.toNat

def digits (digest : Octets) : Text := digest.flatMap fun octet => Text.hex 2 octet.toNat

end Tenancy.Digest
