import Tenancy.Text.Utf8

/-!
# Text from its octets

The lenient reading takes back every text from its octets, also one with surrogates. The lead octet
of a code point says how many octets follow and what the first of them may be; the number of the
code point is then put together from groups of six bits.
-/
namespace Tenancy.Utf8

-- One octet that goes on
private theorem readTails_next (tails low high bits taken octet : Nat) (rest : Octets)
    (small : octet < 0x100) (inRange : low ≤ octet ∧ octet ≤ high) :
    readTails (tails + 1) low high bits taken (UInt8.ofNat octet :: rest) =
      readTails tails 0x80 0xbf (bits * 0x40 + (octet - 0x80)) (taken + 1) rest := by
  have value : (UInt8.ofNat octet).toNat = octet := by
    rw [UInt8.toNat_ofNat', Nat.mod_eq_of_lt small]
  rw [readTails, value, if_pos inRange]

-- A code point is read from what its octets put together, if the lead octet promises them
private theorem step_of_tails (lead : Nat) (small : 0x80 ≤ lead ∧ lead < 0x100) (promise : Lead)
    (leads : lead? (UInt8.ofNat lead) = some promise) (rest : Octets) (c : CodePoint) (taken : Nat)
    (tails : readTails promise.tails promise.low
      (if promise.bits == 0xd && promise.tails == 2 then 0xbf else promise.high) promise.bits 1
      rest = (c.val, taken, none)) :
    step true (UInt8.ofNat lead) rest = .ok (c, taken) := by
  have value : (UInt8.ofNat lead).toNat = lead := by
    rw [UInt8.toNat_ofNat', Nat.mod_eq_of_lt small.2]
  rw [step, value, if_neg (by omega), leads]
  simp only [Bool.true_and, tails, Fin.ofNat_val_eq_self]

private theorem lead?_two (n : Nat) (range : 0x80 ≤ n ∧ n < 0x800) :
    lead? (UInt8.ofNat (0xc0 + n / 0x40)) = some ⟨n / 0x40, 1, 0x80, 0xbf⟩ := by
  have value : (UInt8.ofNat (0xc0 + n / 0x40)).toNat = 0xc0 + n / 0x40 := by
    rw [UInt8.toNat_ofNat', Nat.mod_eq_of_lt (by omega)]
  rw [lead?, value, if_pos (by omega), Nat.add_sub_cancel_left]

private theorem lead?_three (n : Nat) (range : 0x800 ≤ n ∧ n < 0x10000) :
    lead? (UInt8.ofNat (0xe0 + n / 0x1000)) = some ⟨n / 0x1000, 2,
      if n / 0x1000 = 0 then 0xa0 else 0x80, if n / 0x1000 = 0xd then 0x9f else 0xbf⟩ := by
  have value : (UInt8.ofNat (0xe0 + n / 0x1000)).toNat = 0xe0 + n / 0x1000 := by
    rw [UInt8.toNat_ofNat', Nat.mod_eq_of_lt (by omega)]
  rw [lead?, value, if_neg (by omega)]
  by_cases first : n / 0x1000 = 0
  · simp [first]
  by_cases last : n / 0x1000 = 0xd
  · simp [last]
  · rw [if_neg (by omega), if_neg (by omega), if_pos (by omega), Nat.add_sub_cancel_left,
      if_neg first, if_neg last]

private theorem lead?_four (n : Nat) (range : 0x10000 ≤ n ∧ n < 0x110000) :
    lead? (UInt8.ofNat (0xf0 + n / 0x40000)) = some ⟨n / 0x40000, 3,
      if n / 0x40000 = 0 then 0x90 else 0x80, if n / 0x40000 = 4 then 0x8f else 0xbf⟩ := by
  have value : (UInt8.ofNat (0xf0 + n / 0x40000)).toNat = 0xf0 + n / 0x40000 := by
    rw [UInt8.toNat_ofNat', Nat.mod_eq_of_lt (by omega)]
  rw [lead?, value, if_neg (by omega), if_neg (by omega), if_neg (by omega), if_neg (by omega)]
  by_cases first : n / 0x40000 = 0
  · simp [first]
  by_cases last : n / 0x40000 = 4
  · simp [last]
  · rw [if_neg (by omega), if_pos (by omega), Nat.add_sub_cancel_left, if_neg first, if_neg last]

/-- A code point is read from its octets, whatever follows them. -/
theorem step_encodePoint (c : CodePoint) (rest : Octets) : ∃ octet more,
    encodePoint c = octet :: more ∧ step true octet (more ++ rest) = .ok (c, more.length + 1) := by
  have bound : c.val < 0x110000 := c.isLt
  unfold encodePoint
  dsimp only
  split
  next one =>
    refine ⟨_, [], rfl, ?_⟩
    have value : (UInt8.ofNat c.val).toNat = c.val := by
      rw [UInt8.toNat_ofNat', Nat.mod_eq_of_lt (by omega)]
    rw [step, value, if_pos one, Fin.ofNat_val_eq_self]
    rfl
  next notOne =>
    split
    next two =>
      refine ⟨_, _, rfl, step_of_tails _ (by omega) _ (lead?_two c.val (by omega)) _ c _ ?_⟩
      rw [List.cons_append,
        readTails_next _ _ _ _ _ _ _ (by omega) (by dsimp only; split <;> omega), readTails]
      simp only [Prod.mk.injEq, List.length_singleton, and_true]
      omega
    next notTwo =>
      split
      next three =>
        refine ⟨_, _, rfl, step_of_tails _ (by omega) _ (lead?_three c.val (by omega)) _ c _ ?_⟩
        rw [List.cons_append,
          readTails_next _ _ _ _ _ _ _ (by omega) (by split <;> split <;> simp_all <;> omega),
          List.cons_append, readTails_next _ _ _ _ _ _ _ (by omega) (by omega), readTails]
        simp only [Prod.mk.injEq, List.length_cons, List.length_nil, and_true]
        omega
      next notThree =>
        refine ⟨_, _, rfl, step_of_tails _ (by omega) _ (lead?_four c.val (by omega)) _ c _ ?_⟩
        rw [List.cons_append,
          readTails_next _ _ _ _ _ _ _ (by omega) (by split <;> split <;> simp_all <;> omega),
          List.cons_append, readTails_next _ _ _ _ _ _ _ (by omega) (by omega),
          List.cons_append, readTails_next _ _ _ _ _ _ _ (by omega) (by omega), readTails]
        simp only [Prod.mk.injEq, List.length_cons, List.length_nil, and_true]
        omega

-- Each code point takes at least one octet, so the fuel is enough
private theorem decodeFrom_octets (t : Text) (fuel position : Nat)
    (enough : (t.flatMap encodePoint).length ≤ fuel) :
    decodeFrom true fuel position (t.flatMap encodePoint) = .ok t := by
  induction t generalizing fuel position with
  | nil => cases fuel <;> rfl
  | cons c t ih =>
    obtain ⟨octet, more, octets, read⟩ := step_encodePoint c (t.flatMap encodePoint)
    rw [List.flatMap_cons, octets, List.cons_append] at enough ⊢
    simp only [List.length_cons, List.length_append] at enough
    obtain ⟨fuel, rfl⟩ := Nat.exists_eq_succ_of_ne_zero (show fuel ≠ 0 by omega)
    simp only [decodeFrom, read, Nat.add_sub_cancel, List.drop_left]
    rw [ih fuel _ (by omega)]

/-- The lenient reading takes back a text from its octets. -/
theorem decodeLenient_octets (t : Text) : decodeLenient (t.flatMap encodePoint) = .ok t :=
  decodeFrom_octets t _ 0 (Nat.le_refl _)

end Tenancy.Utf8
