import Mathlib.Data.List.Basic
import Mathlib.Data.List.TakeWhile
import Mathlib.Tactic.Ring
import Tenancy.Text.Basic

/-!
# Decimal digits

The digits that a number is written with denote it again. Zeros behind them multiply it by powers
of ten, and zeros before them change nothing; both happen when a point is put among them.
-/
namespace Tenancy

/-- The zero digit. -/
def CodePoint.zeroDigit : CodePoint := CodePoint.ofChar '0'

namespace Text

private theorem isDigit_ofChar (c : Char) (digit : c.isDigit = true) :
    (CodePoint.ofChar c).isDigit = true := by
  have bounds : 48 ≤ c.toNat ∧ c.toNat ≤ 57 := by
    simpa [Char.isDigit, UInt32.le_iff_toNat_le] using digit
  exact Bool.and_eq_true_iff.mpr ⟨decide_eq_true bounds.1, decide_eq_true bounds.2⟩

private theorem digit_value (c : Char) (digit : c.isDigit = true) :
    (CodePoint.ofChar c).digit?.getD 0 = c.toNat - '0'.toNat := by
  simp only [CodePoint.digit?, isDigit_ofChar c digit, if_true, Option.getD_some]
  rfl

private theorem foldl_value (digits : List Char) (all : ∀ c ∈ digits, c.isDigit = true)
    (start : Nat) :
    (digits.map CodePoint.ofChar).foldl (fun n c => 10 * n + (c.digit?.getD 0)) start =
      Nat.ofDigitChars 10 digits start := by
  induction digits generalizing start with
  | nil => simp
  | cons c rest ih =>
    rw [List.map_cons, List.foldl_cons, ih (fun d member => all d (List.mem_cons_of_mem c member)),
      Nat.ofDigitChars_cons, digit_value c (all c List.mem_cons_self)]

theorem isDigit_of_mem_ofNat (n : Nat) (c : CodePoint) (member : c ∈ ofNat n) :
    c.isDigit = true := by
  obtain ⟨d, inDigits, rfl⟩ := List.mem_map.mp member
  exact isDigit_ofChar d (Nat.isDigit_of_mem_toDigits (by decide) (by decide) inDigits)

@[simp]
theorem decimalValue_ofNat (n : Nat) : decimalValue (ofNat n) = n := by
  rw [decimalValue, ofNat, foldl_value, Nat.ofDigitChars_ten_toDigits]
  exact fun c member => Nat.isDigit_of_mem_toDigits (by decide) (by decide) member

private theorem foldl_value_start (digits : Text) (start : Nat) :
    digits.foldl (fun n c => 10 * n + (c.digit?.getD 0)) start =
      start * 10 ^ digits.length + decimalValue digits := by
  induction digits generalizing start with
  | nil => simp [decimalValue]
  | cons c rest ih =>
    rw [decimalValue, List.foldl_cons, List.foldl_cons, ih, ih, List.length_cons]
    ring

theorem decimalValue_append (first second : Text) :
    decimalValue (first ++ second) =
      decimalValue first * 10 ^ second.length + decimalValue second := by
  rw [decimalValue, List.foldl_append, foldl_value_start]
  rfl

@[simp]
theorem decimalValue_zeros (count : Nat) :
    decimalValue (List.replicate count CodePoint.zeroDigit) = 0 := by
  induction count with
  | zero => rfl
  | succ count ih =>
    have zero : decimalValue [CodePoint.zeroDigit] = 0 := by decide
    rw [List.replicate_succ, ← List.singleton_append, decimalValue_append, ih, zero, Nat.zero_mul]

theorem decimalValue_append_zeros (digits : Text) (count : Nat) :
    decimalValue (digits ++ List.replicate count CodePoint.zeroDigit) =
      decimalValue digits * 10 ^ count := by
  rw [decimalValue_append, decimalValue_zeros, List.length_replicate, Nat.add_zero]

theorem decimalValue_zeros_append (count : Nat) (digits : Text) :
    decimalValue (List.replicate count CodePoint.zeroDigit ++ digits) = decimalValue digits := by
  rw [decimalValue_append, decimalValue_zeros, Nat.zero_mul, Nat.zero_add]

theorem length_ofNat (n : Nat) : (ofNat n).length = (Nat.toDigits 10 n).length :=
  List.length_map _

theorem ofNat_ne_nil (n : Nat) : ofNat n ≠ [] := by
  simp [ofNat, Nat.toDigits_ne_nil]

/-- The digits of a positive number start with another digit than zero. -/
theorem head_ofNat (n : Nat) (positive : 0 < n) : (ofNat n).head? ≠ some CodePoint.zeroDigit := by
  -- The first digit is that of the number without its last digit
  induction n using Nat.strongRecOn with
  | ind n ih =>
    by_cases small : n < 10
    · have cases : n = 1 ∨ n = 2 ∨ n = 3 ∨ n = 4 ∨ n = 5 ∨ n = 6 ∨ n = 7 ∨ n = 8 ∨ n = 9 := by
        omega
      rcases cases with rfl | rfl | rfl | rfl | rfl | rfl | rfl | rfl | rfl <;> decide
    · have split : ofNat n = ofNat (n / 10) ++ [CodePoint.ofChar (n % 10).digitChar] := by
        rw [ofNat, Nat.toDigits_of_base_le (by decide) (by omega), List.map_append]
        rfl
      rw [split, List.head?_append_of_ne_nil _ (ofNat_ne_nil (n / 10))]
      exact ih (n / 10) (by omega) (by omega)

/-- What a text loses at its end are code points of the class. -/
theorem trimEnd_append (isTrimmed : CodePoint → Bool) (t : Text) :
    ∃ tail : Text, trimEnd isTrimmed t ++ tail = t ∧ ∀ c ∈ tail, isTrimmed c = true := by
  refine ⟨(t.reverse.takeWhile isTrimmed).reverse, ?_, ?_⟩
  · rw [trimEnd, ← List.reverse_append, List.takeWhile_append_dropWhile, List.reverse_reverse]
  · intro c member
    exact List.mem_takeWhile_imp (List.mem_reverse.mp member)

/-- Digits lose only zeros at their end. -/
theorem trimEnd_zeros (t : Text) :
    ∃ count, trimEnd (· == CodePoint.zeroDigit) t
      ++ List.replicate count CodePoint.zeroDigit = t := by
  obtain ⟨tail, whole, zeros⟩ := trimEnd_append (· == CodePoint.zeroDigit) t
  have eq : tail = List.replicate tail.length CodePoint.zeroDigit :=
    List.eq_replicate_iff.mpr ⟨rfl, fun c member => by simpa using zeros c member⟩
  exact ⟨tail.length, eq ▸ whole⟩

end Text

end Tenancy
