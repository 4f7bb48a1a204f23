import Mathlib.Algebra.Order.Field.Power
import Mathlib.Algebra.Order.Field.Rat
import Mathlib.Tactic.FieldSimp
import Mathlib.Tactic.Linarith
import Mathlib.Tactic.NormNum
import Mathlib.Tactic.Ring
import Tenancy.Double.Basic

/-!
# Rounding to double precision

A quotient and its rounding depend on the ratio alone: numerator and denominator may be multiplied
by the same number, and powers of ten may move between a significand and its exponent. A ratio that
is a number of double precision already rounds to that number.
-/
namespace Tenancy.Double

/-- The ratio of a scaled pair is the ratio divided by the power. -/
theorem scale_ratio (base : Nat) (positive : 0 < base) (exponent : Int) (n d : Nat) :
    ((scale base exponent n d).1 : ℚ) / (scale base exponent n d).2 =
      n / d / (base : ℚ) ^ exponent := by
  have nonzero : (base : ℚ) ≠ 0 := by exact_mod_cast positive.ne'
  unfold scale
  split
  next up =>
    obtain ⟨k, rfl⟩ := Int.eq_ofNat_of_zero_le up
    simp only [Int.toNat_natCast, zpow_natCast, Nat.cast_mul, Nat.cast_pow, div_div]
  next down =>
    obtain ⟨k, eq⟩ := Int.eq_ofNat_of_zero_le (show 0 ≤ -exponent by omega)
    obtain rfl : exponent = -(k : Int) := by omega
    simp only [neg_neg, Int.toNat_natCast, zpow_neg, zpow_natCast, Nat.cast_mul, Nat.cast_pow,
      div_inv_eq_mul]
    ring

theorem scale_pos (base : Nat) (positive : 0 < base) (exponent : Int) (n d : Nat) (hd : 0 < d) :
    0 < (scale base exponent n d).2 := by
  unfold scale
  split
  · exact Nat.mul_pos hd (Nat.pow_pos positive)
  · exact hd

theorem scale_le_iff (base : Nat) (positive : 0 < base) (exponent : Int) (n d : Nat)
    (hd : 0 < d) :
    (scale base exponent n d).2 ≤ (scale base exponent n d).1 ↔
      (base : ℚ) ^ exponent ≤ n / d := by
  have below : (0 : ℚ) < (scale base exponent n d).2 := by
    exact_mod_cast scale_pos base positive exponent n d hd
  have power : (0 : ℚ) < (base : ℚ) ^ exponent := zpow_pos (by exact_mod_cast positive) _
  rw [← Nat.cast_le (α := ℚ), ← one_le_div₀ below, scale_ratio base positive,
    one_le_div₀ power]

/-! ## The power of two below a ratio -/

private theorem log2_bounds (n : Nat) (positive : 0 < n) :
    (2 : ℚ) ^ (n.log2 : Int) ≤ n ∧ (n : ℚ) < 2 ^ ((n.log2 : Int) + 1) := by
  constructor
  · rw [zpow_natCast]
    exact_mod_cast Nat.log2_self_le positive.ne'
  · have above : n < 2 ^ (n.log2 + 1) := Nat.lt_log2_self
    exact_mod_cast above

theorem binaryExponent_bounds (n d : Nat) (hn : 0 < n) (hd : 0 < d) :
    (2 : ℚ) ^ binaryExponent n d ≤ n / d ∧ (n : ℚ) / d < 2 ^ (binaryExponent n d + 1) := by
  have positive : (0 : ℚ) < d := by exact_mod_cast hd
  obtain ⟨nLow, nHigh⟩ := log2_bounds n hn
  obtain ⟨dLow, dHigh⟩ := log2_bounds d hd
  have low : (2 : ℚ) ^ ((n.log2 : Int) - d.log2 - 1) ≤ n / d := by
    rw [le_div_iff₀ positive]
    calc (2 : ℚ) ^ ((n.log2 : Int) - d.log2 - 1) * d
        ≤ 2 ^ ((n.log2 : Int) - d.log2 - 1) * 2 ^ ((d.log2 : Int) + 1) := by gcongr
      _ = 2 ^ (n.log2 : Int) := by rw [← zpow_add₀ two_ne_zero]; congr 1; ring
      _ ≤ n := nLow
  have high : (n : ℚ) / d < 2 ^ ((n.log2 : Int) - d.log2 + 1) := by
    rw [div_lt_iff₀ positive]
    calc (n : ℚ) < 2 ^ ((n.log2 : Int) + 1) := nHigh
      _ = 2 ^ ((n.log2 : Int) - d.log2 + 1) * 2 ^ (d.log2 : Int) := by
        rw [← zpow_add₀ two_ne_zero]; congr 1; ring
      _ ≤ 2 ^ ((n.log2 : Int) - d.log2 + 1) * d := by gcongr
  unfold binaryExponent
  dsimp only
  split
  next atMost => exact ⟨by simpa using (scale_le_iff 2 two_pos _ n d hd).mp atMost, high⟩
  next above =>
    refine ⟨low, ?_⟩
    rw [sub_add_cancel]
    simpa using mt (scale_le_iff 2 two_pos _ n d hd).mpr above

/-- At most one power of two is the greatest one at most a ratio. -/
theorem binaryExponent_unique (q : ℚ) (e f : Int) (eLow : (2 : ℚ) ^ e ≤ q)
    (eHigh : q < 2 ^ (e + 1)) (fLow : (2 : ℚ) ^ f ≤ q) (fHigh : q < 2 ^ (f + 1)) : e = f := by
  have ef : e < f + 1 := (zpow_lt_zpow_iff_right₀ one_lt_two).mp (eLow.trans_lt fHigh)
  have fe : f < e + 1 := (zpow_lt_zpow_iff_right₀ one_lt_two).mp (fLow.trans_lt eHigh)
  omega

/-! ## Ratios -/

private theorem ratio_eq_iff (n d n' d' : Nat) (hd : 0 < d) (hd' : 0 < d') :
    (n : ℚ) / d = n' / d' ↔ n * d' = n' * d := by
  rw [div_eq_div_iff (by exact_mod_cast hd.ne') (by exact_mod_cast hd'.ne')]
  exact_mod_cast Iff.rfl

private theorem roundDiv_mul (c n d : Nat) (hc : 0 < c) :
    roundDiv (c * n) (c * d) = roundDiv n d := by
  have small : 2 * (c * (n % d)) < c * d ↔ 2 * (n % d) < d := by
    rw [Nat.mul_left_comm, Nat.mul_lt_mul_left hc]
  have large : c * d < 2 * (c * (n % d)) ↔ d < 2 * (n % d) := by
    rw [Nat.mul_left_comm, Nat.mul_lt_mul_left hc]
  simp only [roundDiv, Nat.mul_div_mul_left n d hc, Nat.mul_mod_mul_left, small, large]

/-- The nearest natural number depends on the ratio alone. -/
theorem roundDiv_congr (n d n' d' : Nat) (hd : 0 < d) (hd' : 0 < d')
    (same : (n : ℚ) / d = n' / d') : roundDiv n d = roundDiv n' d' := by
  have cross := (ratio_eq_iff n d n' d' hd hd').mp same
  calc roundDiv n d = roundDiv (d' * n) (d' * d) := (roundDiv_mul d' n d hd').symm
    _ = roundDiv (d * n') (d * d') := by
      rw [Nat.mul_comm d' n, cross, Nat.mul_comm n' d, Nat.mul_comm d' d]
    _ = roundDiv n' d' := roundDiv_mul d n' d' hd

/-- The nearest number of double precision depends on the ratio alone. -/
theorem ofRatio_congr (negative : Bool) (n d n' d' : Nat) (hd : 0 < d) (hd' : 0 < d')
    (same : (n : ℚ) / d = n' / d') : ofRatio negative n d = ofRatio negative n' d' := by
  have cross := (ratio_eq_iff n d n' d' hd hd').mp same
  -- Zero is decided first; otherwise the exponent and then the mantissa depend on the ratio
  by_cases zero : n = 0
  · have zero' : n' = 0 := by
      rw [zero, Nat.zero_mul, eq_comm, Nat.mul_eq_zero] at cross
      omega
    simp only [ofRatio, zero, zero', if_true]
  · have zero' : n' ≠ 0 := by
      intro eq
      rw [eq, Nat.zero_mul, Nat.mul_eq_zero] at cross
      omega
    have bounds := binaryExponent_bounds n d (by omega) hd
    have bounds' := binaryExponent_bounds n' d' (by omega) hd'
    rw [← same] at bounds'
    have exponents : binaryExponent n d = binaryExponent n' d' :=
      binaryExponent_unique _ _ _ bounds.1 bounds.2 bounds'.1 bounds'.2
    have mantissas (e : Int) :
        roundDiv (scale 2 e n d).1 (scale 2 e n d).2 =
          roundDiv (scale 2 e n' d').1 (scale 2 e n' d').2 := by
      apply roundDiv_congr _ _ _ _ (scale_pos 2 two_pos e n d hd) (scale_pos 2 two_pos e n' d' hd')
      rw [scale_ratio 2 two_pos, scale_ratio 2 two_pos, same]
    simp only [ofRatio, zero, zero', if_false, exponents, mantissas]

/-! ## Numbers of double precision -/

private theorem roundDiv_exact (m d : Nat) (hd : 0 < d) : roundDiv (m * d) d = m := by
  simp [roundDiv, Nat.mul_div_cancel m hd, hd]

private theorem exponent_exact (m : Nat) (e : Int) (canonical : Canonical m e) (b : Int)
    (low : (2 : ℚ) ^ b ≤ m * 2 ^ e) (high : (m : ℚ) * 2 ^ e < 2 ^ (b + 1)) :
    max (b - 52) (-1074) = e := by
  obtain ⟨small, least, -, filled⟩ := canonical
  have power : (0 : ℚ) < 2 ^ e := zpow_pos two_pos e
  have upper : b < e + 53 := by
    apply (zpow_lt_zpow_iff_right₀ (one_lt_two (α := ℚ))).mp
    calc (2 : ℚ) ^ b ≤ m * 2 ^ e := low
      _ < 2 ^ (53 : Int) * 2 ^ e := by
        apply mul_lt_mul_of_pos_right _ power
        exact_mod_cast small
      _ = 2 ^ (e + 53) := by rw [← zpow_add₀ two_ne_zero, add_comm]
  rcases filled with full | rfl
  · -- A full mantissa has its highest bit at 52
    have lower : e + 52 < b + 1 := by
      apply (zpow_lt_zpow_iff_right₀ (one_lt_two (α := ℚ))).mp
      calc (2 : ℚ) ^ (e + 52) = 2 ^ (52 : Int) * 2 ^ e := by
            rw [← zpow_add₀ two_ne_zero, add_comm]
        _ ≤ m * 2 ^ e := by
          apply mul_le_mul_of_nonneg_right _ power.le
          exact_mod_cast full
        _ < 2 ^ (b + 1) := high
    omega
  · omega

/-- A ratio that is a number of double precision rounds to it. -/
theorem ofRatio_exact (negative : Bool) (m : Nat) (e : Int) (canonical : Canonical m e)
    (positive : 0 < m) (n d : Nat) (hd : 0 < d) (exact : (n : ℚ) / d = m * 2 ^ e) :
    ofRatio negative n d = .finite negative m e canonical := by
  have ratio : (0 : ℚ) < n / d := by
    rw [exact]
    exact mul_pos (by exact_mod_cast positive) (zpow_pos two_pos e)
  have hn : 0 < n := by
    rcases Nat.eq_zero_or_pos n with rfl | hn
    · simp at ratio
    · exact hn
  have bounds := binaryExponent_bounds n d hn hd
  rw [exact] at bounds
  have exponent := exponent_exact m e canonical _ bounds.1 bounds.2
  have below := scale_pos 2 two_pos e n d hd
  have mantissa : roundDiv (scale 2 e n d).1 (scale 2 e n d).2 = m := by
    have power : (2 : ℚ) ^ e ≠ 0 := zpow_ne_zero e two_ne_zero
    rw [← roundDiv_exact m 1 one_pos]
    apply roundDiv_congr _ _ _ _ below one_pos
    rw [scale_ratio 2 two_pos, exact, Nat.cast_ofNat, mul_div_cancel_right₀ _ power, Nat.cast_one,
      div_one, Nat.mul_one]
  have small : m ≠ 2 ^ 53 := canonical.1.ne
  simp only [ofRatio, hn.ne', if_false, exponent, mantissa, small, ofPair, canonical, dif_pos]

end Tenancy.Double
