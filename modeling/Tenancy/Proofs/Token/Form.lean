import Mathlib.Data.List.GetD
import Mathlib.Data.Nat.Digits.Lemmas
import Tenancy.Proofs.Token.Base32

/-!
# The form of tokens

A token has twenty-six characters. They hold two bits more than a seed, and because these bits are
the last ones and zero, a token can end with eight of the characters only. There are no other
conditions: every text of this form is the token of one seed, which its digits tell.
-/
namespace Tenancy.Token

/-! ## Digits of equal number -/

-- The number that digits write is that of the digits in reverse, counted from the least
private theorem foldl_eq_ofDigits (digits : List Nat) :
    digits.foldl (fun sum digit => sum * 32 + digit) 0 = Nat.ofDigits 32 digits.reverse := by
  rw [Nat.ofDigits_eq_foldr, List.foldr_reverse]
  simp only [Nat.mul_comm, Nat.add_comm]
  rfl

theorem length_digits (octets : Octets) : (digits octets).length = (octets.length * 8 + 4) / 5 := by
  induction octets using digits.induct with
  | case1 a b c d e rest ih =>
    rw [digits, List.length_append, ih, groupDigits]
    simp only [List.length_cons, List.length_nil]
    omega
  | case2 | case3 | case4 | case5 => simp [digits, groupDigits]
  | case6 => rfl

theorem digit_lt (c : CodePoint) (member : c ∈ alphabet) : digit c < 32 :=
  List.idxOf_lt_length_of_mem member

theorem character_digit (c : CodePoint) (member : c ∈ alphabet) : character (digit c) = c := by
  rw [character, List.getD_eq_getElem _ _ (digit_lt c member)]
  exact List.getElem_idxOf (digit_lt c member)

theorem character_mem (n : Nat) (small : n < 32) : character n ∈ alphabet := by
  rw [character, List.getD_eq_getElem _ _ small]
  exact List.getElem_mem small

theorem value_eq_ofDigits (token : Text) :
    value token = Nat.ofDigits 32 (token.map digit).reverse := by
  rw [← foldl_eq_ofDigits, List.foldl_map, value]

private theorem reversed_lt (token : Text) (characters : ∀ c ∈ token, c ∈ alphabet) :
    ∀ n ∈ (token.map digit).reverse, n < 32 := by
  intro n member
  obtain ⟨c, inside, rfl⟩ := List.mem_map.mp (List.mem_reverse.mp member)
  exact digit_lt c (characters c inside)

/-- Texts of one length write different numbers, if they differ. -/
theorem value_injective (one other : Text) (length : one.length = other.length)
    (ofOne : ∀ c ∈ one, c ∈ alphabet) (ofOther : ∀ c ∈ other, c ∈ alphabet)
    (same : value one = value other) : one = other := by
  have read (token : Text) (characters : ∀ c ∈ token, c ∈ alphabet) :
      (token.map digit).map character = token := by
    rw [List.map_map]
    exact (List.map_congr_left fun c inside => character_digit c (characters c inside)).trans
      (List.map_id token)
  have digits : one.map digit = other.map digit := by
    rw [value_eq_ofDigits, value_eq_ofDigits] at same
    refine List.reverse_injective (Nat.ofDigits_inj_of_len_eq (by decide) ?_
      (reversed_lt one ofOne) (reversed_lt other ofOther) same)
    simp only [List.length_reverse, List.length_map, length]
  rw [← read one ofOne, digits, read other ofOther]

theorem value_lt (token : Text) (characters : ∀ c ∈ token, c ∈ alphabet) :
    value token < 32 ^ token.length := by
  have bound := Nat.ofDigits_lt_base_pow_length (by decide) (reversed_lt token characters)
  rwa [← value_eq_ofDigits, List.length_reverse, List.length_map] at bound

/-! ## Form -/

/-- The characters that a token may end with: two bits of their digits are zero. -/
def endings : Text := alphabet.filter fun c => digit c % 4 = 0

example : endings = "yrecowah" := by decide

/-- What a token looks like. -/
structure Formed (token : Text) : Prop where
  length : token.length = 26
  characters : ∀ c ∈ token, c ∈ alphabet
  ending : ∃ c ∈ endings, token.getLast? = some c

/-- The seed of a token. -/
def toSeed (token : Text) : TokenSeed := Fin.ofNat (2 ^ 128) (value token / 4)

-- The last character alone decides what is left over of a number that is cut in four
private theorem value_mod_four (token : Text) (c : CodePoint) (last : token.getLast? = some c) :
    value token % 4 = digit c % 4 := by
  obtain ⟨before, rfl⟩ := List.getLast?_eq_some_iff.mp last
  rw [value, List.foldl_append, List.foldl_cons, List.foldl_nil]
  omega

theorem formed_ofSeed (seed : TokenSeed) : Formed (ofSeed seed) := by
  have length : (ofSeed seed).length = 26 := by
    rw [ofSeed, List.length_map, length_digits]
    simp [octets]
  have characters : ∀ c ∈ ofSeed seed, c ∈ alphabet := by
    intro c member
    obtain ⟨n, inside, rfl⟩ := List.mem_map.mp member
    exact character_mem n (digits_lt _ n inside)
  have some : ofSeed seed ≠ [] := by
    intro none
    rw [none] at length
    cases length
  refine ⟨length, characters, (ofSeed seed).getLast some, ?_, List.getLast?_eq_some_getLast some⟩
  have zero : digit ((ofSeed seed).getLast some) % 4 = 0 := by
    rw [← value_mod_four _ _ (List.getLast?_eq_some_getLast some), value_ofSeed]
    omega
  exact List.mem_filter.mpr ⟨characters _ (List.getLast_mem some), decide_eq_true zero⟩

theorem toSeed_ofSeed (seed : TokenSeed) : toSeed (ofSeed seed) = seed := by
  refine Fin.ext ?_
  rw [toSeed, value_ofSeed, Nat.mul_div_cancel _ (by decide)]
  exact Nat.mod_eq_of_lt seed.isLt

/-- A text of the form of a token is the token of the seed that it tells. -/
theorem ofSeed_toSeed (token : Text) (formed : Formed token) : ofSeed (toSeed token) = token := by
  obtain ⟨length, characters, c, ending, last⟩ := formed
  have few : value token / 4 < 2 ^ 128 := by
    have bound := value_lt token characters
    rw [length] at bound
    omega
  have multiple : value token % 4 = 0 := by
    rw [value_mod_four token c last]
    exact of_decide_eq_true (List.mem_filter.mp ending).2
  have written := formed_ofSeed (toSeed token)
  refine value_injective _ _ (written.length.trans length.symm) written.characters characters ?_
  calc value (ofSeed (toSeed token))
      = value token / 4 * 4 := by
        rw [value_ofSeed, toSeed]
        exact congrArg (· * 4) (Nat.mod_eq_of_lt few)
    _ = value token := by omega

/-- Seeds and the texts of the form of a token stand for one another, in both directions by a
computation. As a number a token is its seed, moved two bits up; as a text it is the base 32 of
the seed's octets, without padding and in characters of its own. -/
theorem tokens_are_formed_texts :
    (∀ seed, Formed (ofSeed seed) ∧ value (ofSeed seed) = seed.val <<< 2 ∧
      ofSeed seed =
        (Text.trimEnd Base32.isPadding (Base32.encode (octets seed))).map Base32.translate) ∧
      Function.Injective ofSeed ∧ Function.LeftInverse toSeed ofSeed ∧
        ∀ token, (Formed token ↔ ofSeed (toSeed token) = token) ∧
          (Formed token ↔ ∃! seed, ofSeed seed = token) := by
  refine ⟨fun seed => ⟨formed_ofSeed seed, ?_, Base32.ofSeed_eq_translate seed⟩, ofSeed_injective,
    toSeed_ofSeed, fun token => ⟨⟨ofSeed_toSeed token, ?_⟩, ?_, ?_⟩⟩
  · rw [value_ofSeed, Nat.shiftLeft_eq]
  · intro written
    rw [← written]
    exact formed_ofSeed (toSeed token)
  · intro formed
    exact ⟨toSeed token, ofSeed_toSeed token formed, fun seed same => by
      rw [← same, toSeed_ofSeed]⟩
  · rintro ⟨seed, rfl, -⟩
    exact formed_ofSeed seed

end Tenancy.Token
