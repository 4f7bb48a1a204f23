import Mathlib.Data.List.TakeWhile
import Tenancy.Proofs.Token

/-!
# Base 32

The usual base 32 of octets reads five of them as a number of forty bits and writes its eight
digits, one letter each. Zeros fill up a shorter group at the end, and a mark stands in the place of
each digit that comes from these zeros alone. A token is such a text: it leaves out the marks, and
its characters are other ones than the letters.
-/
namespace Tenancy.Base32

/-- The letters of the thirty-two digits, in ascending order. -/
def letters : Text := "ABCDEFGHIJKLMNOPQRSTUVWXYZ234567"

def letter (digit : Nat) : CodePoint := letters.getD digit 0

/-- The mark for a digit that says nothing. -/
def padding : CodePoint := CodePoint.ofChar '='

def isPadding (c : CodePoint) : Bool := c == padding

/-- The letters of five octets, which are the digits of one number. -/
def group (octets : Octets) : Text :=
  let number := octets.foldl (fun sum octet => sum * 256 + octet.toNat) 0
  (List.range 8).map fun place => letter (number / 32 ^ (7 - place) % 32)

/-- How many letters octets take that are no whole group. -/
def lettersFor (octets : Octets) : Nat := (octets.length * 8 + 4) / 5

/-- The letters of fewer than five octets, filled up with marks. -/
def lastGroup (octets : Octets) : Text :=
  let filled := octets ++ List.replicate (5 - octets.length) 0
  (group filled).take (lettersFor octets) ++ List.replicate (8 - lettersFor octets) padding

/-- The letters and marks of octets. -/
def encode : Octets → Text
  | a :: b :: c :: d :: e :: rest => group [a, b, c, d, e] ++ encode rest
  | [] => []
  | left => lastGroup left

example : encode [0x74, 0x65, 0x6e, 0x61, 0x6e, 0x63, 0x79] = "ORSW4YLOMN4Q====" := by decide

/-- The character of a token that stands for the same digit as a letter. -/
def translate (c : CodePoint) : CodePoint := Token.character (letters.idxOf c)

/-! ## Groups -/

theorem group_eq (a b c d e : UInt8) :
    group [a, b, c, d, e] =
      (Token.groupDigits a.toNat b.toNat c.toNat d.toNat e.toNat).map letter := by
  have first := a.toNat_lt
  have second := b.toNat_lt
  have third := c.toNat_lt
  have fourth := d.toNat_lt
  have fifth := e.toNat_lt
  have places : List.range 8 = [0, 1, 2, 3, 4, 5, 6, 7] := rfl
  simp only [group, Token.groupDigits, places, List.map_cons, List.map_nil, List.foldl_cons,
    List.foldl_nil, List.cons.injEq, and_true]
  refine ⟨?_, ?_, ?_, ?_, ?_, ?_, ?_, ?_⟩ <;> congr 1 <;> omega

/-- How many marks there are behind the letters of so many octets. -/
def marksFor (count : Nat) : Nat := (8 - (count * 8 + 4) / 5 % 8) % 8

/-- The text of octets is the letters of their digits, and then marks. -/
theorem encode_eq (octets : Octets) :
    encode octets =
      (Token.digits octets).map letter ++ List.replicate (marksFor octets.length) padding := by
  induction octets using Tenancy.Token.digits.induct with
  | case1 a b c d e rest ih =>
    have eight : ((rest.length + 5) * 8 + 4) / 5 = (rest.length * 8 + 4) / 5 + 8 := by omega
    have marks : marksFor (a :: b :: c :: d :: e :: rest).length = marksFor rest.length := by
      simp only [marksFor, List.length_cons, Nat.add_assoc, Nat.reduceAdd, eight,
        Nat.add_mod_right]
    rw [encode, Token.digits, ih, group_eq, List.map_append, List.append_assoc, marks]
  -- A shorter group is the beginning of one that zeros fill up
  | case2 | case3 | case4 | case5 =>
    rw [Token.digits, List.map_take, ← UInt8.toNat_zero, ← group_eq]
    simp [encode, lastGroup, lettersFor, marksFor]
  | case6 => rfl

/-! ## Letters and characters -/

theorem letter_not_padding (n : Nat) (small : n < 32) : isPadding (letter n) = false := by
  revert n
  decide

theorem translate_letter (n : Nat) (small : n < 32) : translate (letter n) = Token.character n := by
  revert n
  decide

/-- Without the marks, the letters of the digits are left. -/
theorem trimEnd_encode (octets : Octets) :
    Text.trimEnd isPadding (encode octets) = (Token.digits octets).map letter := by
  have marked : ∀ c ∈ List.replicate (marksFor octets.length) padding, isPadding c = true := by
    intro c member
    rw [List.eq_of_mem_replicate member]
    rfl
  have unmarked : ∀ c ∈ ((Token.digits octets).map letter).reverse, isPadding c = false := by
    intro c member
    obtain ⟨n, digit, rfl⟩ := List.mem_map.mp (List.mem_reverse.mp member)
    exact letter_not_padding n (Token.digits_lt octets n digit)
  have kept : ((Token.digits octets).map letter).reverse.dropWhile isPadding =
      ((Token.digits octets).map letter).reverse := by
    refine List.dropWhile_eq_self_iff.mpr fun some => ?_
    rw [unmarked _ (List.getElem_mem some)]
    exact Bool.false_ne_true
  rw [Text.trimEnd, encode_eq, List.reverse_append, List.reverse_replicate,
    List.dropWhile_append_of_pos marked, kept, List.reverse_reverse]

/-- A token is the base 32 of its octets, without the marks and in its own characters. -/
theorem ofSeed_eq_translate (seed : TokenSeed) :
    Token.ofSeed seed =
      (Text.trimEnd isPadding (encode (Token.octets seed))).map translate := by
  rw [trimEnd_encode, List.map_map, Token.ofSeed]
  refine List.map_congr_left fun n digit => ?_
  exact (translate_letter n (Token.digits_lt _ n digit)).symm

end Tenancy.Base32
