import Tenancy.Token

/-!
# Tokens and their seeds

The octets of a seed are its digits in base 256, and the characters of a token are digits in base
32. A token is a few bits longer than its seed, and these bits are zero. So a token still tells its
seed.
-/
namespace Tenancy.Token

/-! ## Octets -/

-- The first octets of a number are what is left of it without the other ones
private theorem foldl_octets (number : Nat) (small : number < 256 ^ 16) (n : Nat) (few : n ≤ 16) :
    (List.range n).foldl
      (fun sum place => sum * 256 + (UInt8.ofNat (number / 256 ^ (15 - place))).toNat) 0 =
        number / 256 ^ (16 - n) := by
  induction n with
  | zero => exact (Nat.div_eq_of_lt small).symm
  | succ n ih =>
    have place : 16 - n = (15 - n) + 1 := by omega
    have rest : 16 - (n + 1) = 15 - n := by omega
    rw [List.range_succ, List.foldl_append, ih (by omega), place, rest, Nat.pow_succ,
      ← Nat.div_div_eq_div_mul]
    exact Nat.div_add_mod' _ 256

/-- The octets of a seed write it, most significant first. -/
theorem octets_value (seed : TokenSeed) :
    (octets seed).foldl (fun sum octet => sum * 256 + octet.toNat) 0 = seed.val := by
  rw [octets, List.foldl_map, foldl_octets seed.val seed.isLt 16 (Nat.le_refl 16)]
  exact Nat.div_one _

/-! ## Digits -/

private theorem groupDigits_value (a b c d e : UInt8) (sum : Nat) :
    (groupDigits a.toNat b.toNat c.toNat d.toNat e.toNat).foldl
      (fun sum digit => sum * 32 + digit) sum =
        [a, b, c, d, e].foldl (fun sum octet => sum * 256 + octet.toNat) sum := by
  have := a.toNat_lt
  have := b.toNat_lt
  have := c.toNat_lt
  have := d.toNat_lt
  have := e.toNat_lt
  simp only [groupDigits, List.foldl_cons, List.foldl_nil]
  omega

/-- Octets of which one is left over have digits that write two bits more. -/
theorem digits_value (octets : Octets) (left : octets.length % 5 = 1) (sum : Nat) :
    (digits octets).foldl (fun sum digit => sum * 32 + digit) sum =
      octets.foldl (fun sum octet => sum * 256 + octet.toNat) sum * 4 := by
  -- Groups of five octets come to nothing left over, and the last octet has two digits
  induction octets using digits.induct generalizing sum with
  | case1 a b c d e rest ih =>
    have fewer : rest.length % 5 = 1 := by
      simp only [List.length_cons] at left
      omega
    rw [digits, List.foldl_append, groupDigits_value, ih fewer]
    simp only [List.foldl_cons, List.foldl_nil]
  | case2 | case3 | case4 | case6 => simp at left
  | case5 a =>
    have := a.toNat_lt
    have two : digits [a] = [a.toNat / 8, a.toNat % 8 * 4] := by
      simp [digits, groupDigits]
    simp only [two, List.foldl_cons, List.foldl_nil]
    omega

private theorem groupDigits_lt (a b c d e : Nat) (first : a < 256) (second : b < 256)
    (third : c < 256) (fourth : d < 256) (fifth : e < 256) :
    ∀ digit ∈ groupDigits a b c d e, digit < 32 := by
  intro digit member
  simp only [groupDigits, List.mem_cons, List.not_mem_nil, or_false] at member
  omega

theorem digits_lt (octets : Octets) : ∀ digit ∈ digits octets, digit < 32 := by
  intro digit member
  induction octets using digits.induct with
  | case1 a b c d e rest ih =>
    rw [digits] at member
    rcases List.mem_append.mp member with first | later
    · exact groupDigits_lt _ _ _ _ _ a.toNat_lt b.toNat_lt c.toNat_lt d.toNat_lt e.toNat_lt _ first
    · exact ih later
  | case2 a b c d =>
    rw [digits] at member
    exact groupDigits_lt _ _ _ _ _ a.toNat_lt b.toNat_lt c.toNat_lt d.toNat_lt (by decide) _
      (List.mem_of_mem_take member)
  | case3 a b c =>
    rw [digits] at member
    exact groupDigits_lt _ _ _ _ _ a.toNat_lt b.toNat_lt c.toNat_lt (by decide) (by decide) _
      (List.mem_of_mem_take member)
  | case4 a b =>
    rw [digits] at member
    exact groupDigits_lt _ _ _ _ _ a.toNat_lt b.toNat_lt (by decide) (by decide) (by decide) _
      (List.mem_of_mem_take member)
  | case5 a =>
    rw [digits] at member
    exact groupDigits_lt _ _ _ _ _ a.toNat_lt (by decide) (by decide) (by decide) (by decide) _
      (List.mem_of_mem_take member)
  | case6 => cases member

/-! ## Characters -/

/-- The digit of a character. -/
def digit (c : CodePoint) : Nat := alphabet.idxOf c

theorem digit_character (n : Nat) (small : n < 32) : digit (character n) = n := by
  revert n
  decide

/-- The number that a token writes. -/
def value (token : Text) : Nat := token.foldl (fun sum c => sum * 32 + digit c) 0

/-- A token writes its seed, and two bits more. -/
theorem value_ofSeed (seed : TokenSeed) : value (ofSeed seed) = seed.val * 4 := by
  have same : (ofSeed seed).map digit = digits (octets seed) := by
    rw [ofSeed, List.map_map]
    refine (List.map_congr_left fun n member => ?_).trans (List.map_id _)
    exact digit_character n (digits_lt _ n member)
  have left : (octets seed).length % 5 = 1 := by simp [octets]
  calc value (ofSeed seed)
      = ((ofSeed seed).map digit).foldl (fun sum n => sum * 32 + n) 0 := by
        rw [List.foldl_map, value]
    _ = seed.val * 4 := by
        rw [same, digits_value _ left, octets_value]

/-- Seeds that differ have tokens that differ. -/
theorem ofSeed_injective : Function.Injective ofSeed := by
  intro a b same
  have values := congrArg value same
  rw [value_ofSeed, value_ofSeed] at values
  exact Fin.ext (by omega)

end Tenancy.Token
