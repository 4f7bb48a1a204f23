import Tenancy.Double.Decimal
import Tenancy.Proofs.Double.Rounding

/-!
# Shortest decimals read back

The decimal that a number is written with rounds to that number. Where the search for few digits
finds one, it has been read back; where it finds none, the decimal is the exact value, and the two
bounds that decide extreme powers of ten at once lie outside the numbers of double precision.
-/
namespace Tenancy.Double

/-- A number with another sign. -/
def signed (negative : Bool) : Double → Double
  | .finite _ mantissa exponent canonical => .finite negative mantissa exponent canonical
  | .infinite _ => .infinite negative
  | .nan => .nan

private theorem signed_zero (negative : Bool) : signed negative (zero false) = zero negative := rfl

private theorem signed_ofPair (negative : Bool) (m : Nat) (e : Int) :
    signed negative (ofPair false m e) = ofPair negative m e := by
  by_cases canonical : Canonical m e <;> simp [ofPair, canonical, signed]

private theorem signed_ofRatio (negative : Bool) (n d : Nat) :
    signed negative (ofRatio false n d) = ofRatio negative n d := by
  unfold ofRatio
  split
  · exact signed_zero negative
  · dsimp only
    split <;> exact signed_ofPair negative _ _

/-- The sign of a decimal is the sign of its number. -/
theorem signed_ofDecimal (negative : Bool) (s : Nat) (e : Int) :
    signed negative (ofDecimal false s e) = ofDecimal negative s e := by
  unfold ofDecimal
  dsimp only
  split_ifs
  · exact signed_zero negative
  · rfl
  · exact signed_zero negative
  · exact signed_ofRatio negative _ _
  · exact signed_ofRatio negative _ _

/-! ## Powers of ten -/

private theorem length_toDigits_mul (n k : Nat) (positive : 0 < n) :
    (Nat.toDigits 10 (n * 10 ^ k)).length = (Nat.toDigits 10 n).length + k := by
  induction k with
  | zero => simp
  | succ k ih =>
    have step : n * 10 ^ (k + 1) = 10 * (n * 10 ^ k) + 0 := by ring
    rw [step, ← Nat.toDigits_append_toDigits (by decide) (by positivity) (by decide),
      List.length_append, ih]
    rfl

private theorem toDigits_bounds (n : Nat) (positive : 0 < n) :
    (10 : ℚ) ^ (((Nat.toDigits 10 n).length : Int) - 1) ≤ n ∧
      (n : ℚ) < 10 ^ ((Nat.toDigits 10 n).length : Int) := by
  have some : 0 < (Nat.toDigits 10 n).length := Nat.length_toDigits_pos
  constructor
  · obtain ⟨k, eq⟩ : ∃ k, (Nat.toDigits 10 n).length = k + 1 := ⟨_, (Nat.sub_add_cancel some).symm⟩
    have low : 10 ^ k ≤ n := by
      rcases Nat.eq_zero_or_pos k with rfl | more
      · exact positive
      · by_contra less
        have := (Nat.length_toDigits_le_iff (by decide) more).mpr (Nat.lt_of_not_le less)
        omega
    rw [eq, Nat.cast_add, Nat.cast_one, add_sub_cancel_right, zpow_natCast]
    exact_mod_cast low
  · rw [zpow_natCast]
    exact_mod_cast (Nat.length_toDigits_le_iff (by decide) some).mp le_rfl

-- The quotient that a decimal within the bounds is rounded from
private theorem decimal_ratio (s : Nat) (e : Int) : ∃ n d : Nat, 0 < d ∧ (n : ℚ) / d = s * 10 ^ e ∧
    ∀ negative, (if 0 ≤ e then ofRatio negative (s * 10 ^ e.toNat) 1
      else ofRatio negative s (10 ^ (-e).toNat)) = ofRatio negative n d := by
  split
  next up =>
    obtain ⟨k, rfl⟩ := Int.eq_ofNat_of_zero_le up
    exact ⟨s * 10 ^ k, 1, one_pos, by simp, fun _ => rfl⟩
  next down =>
    obtain ⟨k, eq⟩ := Int.eq_ofNat_of_zero_le (show 0 ≤ -e by omega)
    obtain rfl : e = -(k : Int) := by omega
    exact ⟨s, 10 ^ k, by positivity, by simp [div_eq_mul_inv], fun _ => by simp⟩

/-- Powers of ten move between a significand and its exponent. -/
theorem ofDecimal_shift (negative : Bool) (s k : Nat) (e : Int) :
    ofDecimal negative (s * 10 ^ k) e = ofDecimal negative s (e + k) := by
  rcases Nat.eq_zero_or_pos s with rfl | positive
  · simp [ofDecimal]
  · have scaled : s * 10 ^ k ≠ 0 := by positivity
    have magnitude : ((Nat.toDigits 10 (s * 10 ^ k)).length : Int) + e =
        (Nat.toDigits 10 s).length + (e + k) := by
      rw [length_toDigits_mul s k positive]
      push_cast
      ring
    obtain ⟨n, d, hd, ratio, eq⟩ := decimal_ratio (s * 10 ^ k) e
    obtain ⟨n', d', hd', ratio', eq'⟩ := decimal_ratio s (e + k)
    have same : (n : ℚ) / d = n' / d' := by
      rw [ratio, ratio', zpow_add₀ (by norm_num), zpow_natCast]
      push_cast
      ring
    simp only [ofDecimal, scaled, positive.ne', if_false, magnitude, eq, eq',
      ofRatio_congr negative n d n' d' hd hd' same]

/-! ## The exact value -/

private theorem exactDecimal_value (m : Nat) (e : Int) :
    ((exactDecimal m e).significand : ℚ) * 10 ^ (exactDecimal m e).exponent = m * 2 ^ e := by
  unfold exactDecimal
  split
  next up =>
    obtain ⟨k, rfl⟩ := Int.eq_ofNat_of_zero_le up
    simp
  next down =>
    obtain ⟨k, eq⟩ := Int.eq_ofNat_of_zero_le (show 0 ≤ -e by omega)
    obtain rfl : e = -(k : Int) := by omega
    have ten : (10 : ℚ) ^ k = 2 ^ k * 5 ^ k := by rw [← mul_pow]; norm_num
    simp only [neg_neg, Int.toNat_natCast, Nat.cast_mul, Nat.cast_pow, Nat.cast_ofNat, zpow_neg,
      zpow_natCast, ten]
    field_simp

private theorem exactDecimal_pos (m : Nat) (e : Int) (positive : 0 < m) :
    0 < (exactDecimal m e).significand := by
  unfold exactDecimal
  split <;> positivity

-- The numbers of double precision lie between the bounds that decide extreme powers of ten
private theorem value_bounds (m : Nat) (e : Int) (canonical : Canonical m e) (positive : 0 < m) :
    (10 : ℚ) ^ (-324 : Int) < m * 2 ^ e ∧ (m : ℚ) * 2 ^ e < 10 ^ (309 : Int) := by
  obtain ⟨small, least, most, -⟩ := canonical
  have power : (0 : ℚ) < 2 ^ e := zpow_pos two_pos e
  -- The two bounds are compared in powers of 2 ^ 10 and 10 ^ 3, which are small enough to compute
  constructor
  · have tiny : (10 : ℚ) ^ (-324 : Int) < 2 ^ (-1074 : Int) := by
      rw [show (-324 : Int) = 3 * -108 by decide, show (-1074 : Int) = 10 * -107 + -4 by decide,
        zpow_add₀ two_ne_zero, zpow_mul, zpow_mul]
      norm_num
    calc (10 : ℚ) ^ (-324 : Int) < 2 ^ (-1074 : Int) := tiny
      _ ≤ 2 ^ e := zpow_le_zpow_right₀ one_le_two least
      _ ≤ m * 2 ^ e := le_mul_of_one_le_left power.le (by exact_mod_cast positive)
  · have mantissa : (m : ℚ) ≤ 2 ^ (53 : Int) := by exact_mod_cast small.le
    have exponent : (2 : ℚ) ^ e ≤ 2 ^ (971 : Int) := zpow_le_zpow_right₀ one_le_two most
    calc (m : ℚ) * 2 ^ e ≤ 2 ^ (53 : Int) * 2 ^ (971 : Int) :=
          mul_le_mul mantissa exponent power.le (zpow_nonneg two_pos.le _)
      _ < 10 ^ (309 : Int) := by
          rw [← zpow_add₀ two_ne_zero, show (309 : Int) = 3 * 103 by decide,
            show (53 + 971 : Int) = 10 * 102 + 4 by decide, zpow_add₀ two_ne_zero, zpow_mul,
            zpow_mul]
          norm_num

/-- The exact value of a number rounds to that number. -/
theorem ofDecimal_exactDecimal (negative : Bool) (m : Nat) (e : Int) (canonical : Canonical m e)
    (positive : 0 < m) :
    ofDecimal negative (exactDecimal m e).significand (exactDecimal m e).exponent =
      .finite negative m e canonical := by
  have significand := exactDecimal_pos m e positive
  have value := exactDecimal_value m e
  have bounds := value_bounds m e canonical positive
  -- Only the value of the decimal matters from here on
  generalize (exactDecimal m e).significand = s at significand value ⊢
  generalize (exactDecimal m e).exponent = x at value ⊢
  have digits := toDigits_bounds s significand
  rw [← value] at bounds
  have power : (0 : ℚ) < 10 ^ x := zpow_pos (by norm_num) x
  have most : ((Nat.toDigits 10 s).length : Int) - 1 + x < 309 := by
    apply (zpow_lt_zpow_iff_right₀ (show (1 : ℚ) < 10 by norm_num)).mp
    rw [zpow_add₀ (by norm_num)]
    exact lt_of_le_of_lt (mul_le_mul_of_nonneg_right digits.1 power.le) bounds.2
  have least : -324 < ((Nat.toDigits 10 s).length : Int) + x := by
    apply (zpow_lt_zpow_iff_right₀ (show (1 : ℚ) < 10 by norm_num)).mp
    rw [zpow_add₀ (by norm_num)]
    exact lt_trans bounds.1 (mul_lt_mul_of_pos_right digits.2 power)
  obtain ⟨n, d, hd, ratio, eq⟩ := decimal_ratio s x
  unfold ofDecimal
  dsimp only
  rw [if_neg significand.ne', if_neg (by omega), if_neg (by omega), eq]
  exact ofRatio_exact negative m e canonical positive n d hd (ratio.trans value)

/-! ## The search -/

/-- A quotient rounds to one of its two neighbours. -/
theorem roundDiv_neighbours (n d : Nat) : roundDiv n d = n / d ∨ roundDiv n d = n / d + 1 := by
  unfold roundDiv
  dsimp only
  split
  · exact .inl rfl
  · split
    · exact .inr rfl
    · omega

-- What the search finds has been read back
private theorem readBack?_sound (m : Nat) (e : Int) (n d : Nat) (power : Int) (found : Decimal)
    (eq : readBack? m e n d power = some found) :
    ofDecimal false found.significand found.exponent = ofPair false m e := by
  unfold readBack? at eq
  dsimp only at eq
  split at eq
  next low high =>
    obtain rfl := Option.some.inj eq
    rcases roundDiv_neighbours (scale 10 power n d).1 (scale 10 power n d).2 with below | above
    · rw [below]; exact of_decide_eq_true low
    · rw [above]; exact of_decide_eq_true high
  next low _ => obtain rfl := Option.some.inj eq; exact of_decide_eq_true low
  next high => obtain rfl := Option.some.inj eq; exact of_decide_eq_true high
  next => cases eq

/-- The decimal that a number is written with rounds to that number. -/
theorem ofDecimal_shortest (negative : Bool) (m : Nat) (e : Int) (canonical : Canonical m e)
    (positive : 0 < m) :
    ofDecimal negative (shortest m e).significand (shortest m e).exponent =
      .finite negative m e canonical := by
  unfold shortest
  dsimp only
  -- Without a find the decimal is the exact value
  cases search : (List.range 17).findSome? _ with
  | none => exact ofDecimal_exactDecimal negative m e canonical positive
  | some found =>
    obtain ⟨count, -, eq⟩ := List.exists_of_findSome?_eq_some search
    rw [Option.getD_some, ← signed_ofDecimal, readBack?_sound m e _ _ _ found eq, ofPair,
      dif_pos canonical]
    rfl

theorem shortest_pos (m : Nat) (e : Int) (canonical : Canonical m e) (positive : 0 < m) :
    0 < (shortest m e).significand := by
  have exact := ofDecimal_shortest false m e canonical positive
  rcases Nat.eq_zero_or_pos (shortest m e).significand with none | some
  · rw [none] at exact
    simp only [ofDecimal, if_true, zero, finite.injEq] at exact
    omega
  · exact some

end Tenancy.Double
