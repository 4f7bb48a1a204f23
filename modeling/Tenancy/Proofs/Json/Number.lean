import Tenancy.Proofs.Double.Shortest
import Tenancy.Proofs.Json.Grammar
import Tenancy.Proofs.Text.Decimal

/-!
# Numbers in documents

The text of an integer and that of every finite number, in any layout, are numbers of the grammar
and denote what was written. Where the point stands and how the exponent is written make no
difference: the digits denote the same significand up to zeros at its end.
-/
namespace Tenancy.Json

section
variable {grammar : Grammar}

/-! ## Whole numbers -/

-- The digits of a natural number are a whole part
private theorem ofNat_isWhole (n : Nat) : IsWhole (Text.ofNat n) := by
  refine ⟨⟨Text.ofNat_ne_nil n, Text.isDigit_of_mem_ofNat n⟩, fun zero => ?_⟩
  rcases Nat.eq_zero_or_pos n with rfl | positive
  · decide
  · exact absurd zero (Text.head_ofNat n positive)

private theorem ofInt_sign (n : Int) : Text.ofInt n =
    signText (decide (n < 0)) ++ Text.ofNat n.natAbs := by
  cases n with
  | ofNat n => simp [Text.ofInt, signText]
  | negSucc n => simp [Text.ofInt, signText, Int.negSucc_lt_zero]; rfl

/-- The text of an integer that is short enough to be written denotes it, provided that the grammar
allows as many digits as are written. -/
theorem denotes_ofInt (room : ∀ limit ∈ grammar.limit, Numeral.digitLimit ≤ limit) (n : Int)
    (short : Numeral.isTooLong n = false) : Denotes grammar (Text.ofInt n) (.value (.int n)) := by
  have few : (Text.ofNat n.natAbs).length ≤ Numeral.digitLimit := by
    rw [Text.length_ofNat]
    exact Nat.le_of_not_lt (of_decide_eq_false short)
  have isNumber : IsNumber grammar (decide (n < 0)) _ _ := .integer (ofNat_isWhole n.natAbs)
    fun limit isLimit => few.trans (room limit isLimit)
  have value : (if decide (n < 0) = true then -(Text.decimalValue (Text.ofNat n.natAbs) : Int)
      else Text.decimalValue (Text.ofNat n.natAbs)) = n := by
    rw [Text.decimalValue_ofNat]
    split <;> simp_all only [decide_eq_true_eq] <;> omega
  rw [value] at isNumber
  rw [ofInt_sign]
  exact .number _ isNumber

/-! ## Numbers with a fraction -/

-- A number with a fraction and no exponent
private theorem isNumber_fraction (grammar : Grammar) (negative : Bool) (whole digits : Text)
    (isWhole : IsWhole whole) (are : AreDigits digits) :
    IsNumber grammar negative (whole ++ 0x2e :: digits)
      (.number (Double.ofDigits negative whole digits 0)) := by
  have isNumber : IsNumber grammar negative (whole ++ (0x2e :: digits ++ [])) _ :=
    .double isWhole (.present are) .absent (.inl rfl)
  rw [List.append_nil] at isNumber
  exact isNumber

-- The number of significant digits with the point behind a given number of them
private def pointed (negative : Bool) (digits : Text) (point : Int) : Json :=
  .number (Double.ofDecimal negative (Text.decimalValue digits) (point - digits.length))

private theorem zeros_digits (count : Nat) :
    ∀ c ∈ List.replicate count CodePoint.zeroDigit, c.isDigit = true := by
  intro c member
  rw [(List.mem_replicate.mp member).2]
  decide

private theorem zero_isWhole : IsWhole [0x30] :=
  ⟨⟨List.cons_ne_nil _ _, zeros_digits 1⟩, fun _ => rfl⟩

-- Digits without a zero before others are a whole part
private theorem isWhole_cons (first : CodePoint) (others : Text)
    (all : ∀ c ∈ first :: others, c.isDigit = true) (leading : first ≠ 0x30) :
    IsWhole (first :: others) :=
  ⟨⟨List.cons_ne_nil _ _, all⟩, fun zero => absurd (Option.some.inj zero) leading⟩

-- A text with the point before all significant digits
private theorem positional_small (negative : Bool) (digits : Text) (are : AreDigits digits)
    (point : Int) (small : point ≤ 0) :
    IsNumber grammar negative (Double.positional digits point) (pointed negative digits point) := by
  let zeros := List.replicate (-point).toNat CodePoint.zeroDigit
  have fraction : AreDigits (zeros ++ digits) :=
    ⟨List.append_ne_nil_of_right_ne_nil _ are.nonempty, fun c member =>
      (List.mem_append.mp member).elim (zeros_digits _ c) (are.all c)⟩
  have shape : Double.positional digits point = [0x30] ++ 0x2e :: (zeros ++ digits) := by
    have zero : Text.ofString "0." = [0x30, 0x2e] := rfl
    rw [Double.positional, if_pos small, zero]
    rfl
  have value : Text.decimalValue ([0x30] ++ (zeros ++ digits)) = Text.decimalValue digits :=
    Text.decimalValue_zeros_append ((-point).toNat + 1) digits
  have exponent : (0 : Int) - (zeros ++ digits).length = point - digits.length := by
    rw [List.length_append, List.length_replicate]
    omega
  have isNumber := isNumber_fraction grammar negative _ _ zero_isWhole fraction
  rw [Double.ofDigits, exponent, value] at isNumber
  rw [shape]
  exact isNumber

-- A text with the point behind all significant digits
private theorem positional_large (negative : Bool) (first : CodePoint) (others : Text)
    (all : ∀ c ∈ first :: others, c.isDigit = true) (leading : first ≠ 0x30) (point : Int)
    (large : 0 < point ∧ (first :: others).length ≤ point.toNat) :
    IsNumber grammar negative (Double.positional (first :: others) point)
      (pointed negative (first :: others) point) := by
  let count := point.toNat - (first :: others).length
  let zeros := List.replicate count CodePoint.zeroDigit
  have whole : ∀ c ∈ first :: (others ++ zeros), c.isDigit = true := fun c member =>
    (List.mem_append.mp (show c ∈ first :: others ++ zeros from member)).elim (all c)
      (zeros_digits _ c)
  have shape : Double.positional (first :: others) point =
      first :: (others ++ zeros) ++ 0x2e :: [0x30] := by
    have zero : Text.ofString ".0" = [0x2e, 0x30] := rfl
    rw [Double.positional, if_neg (by omega), if_pos large.2, zero]
    rfl
  -- The zeros before and behind the point are powers of ten, which the shift takes back
  have value : Text.decimalValue (first :: (others ++ zeros) ++ [0x30]) =
      Text.decimalValue (first :: others) * 10 ^ (count + 1) := by
    rw [← Text.decimalValue_append_zeros, List.replicate_succ', ← List.append_assoc]
    rfl
  have exponent : (0 : Int) - ([0x30] : Text).length + ((count + 1 : Nat) : Int) =
      point - (first :: others).length := by
    simp only [List.length_singleton]
    omega
  have isNumber := isNumber_fraction grammar negative _ [0x30]
    (isWhole_cons first _ whole leading) ⟨List.cons_ne_nil _ _, zeros_digits 1⟩
  rw [Double.ofDigits, value, Double.ofDecimal_shift, exponent] at isNumber
  rw [shape]
  exact isNumber

-- A text with the point among the significant digits
private theorem positional_inside (negative : Bool) (first : CodePoint) (others : Text)
    (all : ∀ c ∈ first :: others, c.isDigit = true) (leading : first ≠ 0x30) (point : Int)
    (inside : 0 < point ∧ point.toNat < (first :: others).length) :
    IsNumber grammar negative (Double.positional (first :: others) point)
      (pointed negative (first :: others) point) := by
  obtain ⟨k, eq⟩ : ∃ k, point.toNat = k + 1 := ⟨point.toNat - 1, by omega⟩
  have cut : first :: others.take k ++ others.drop k = first :: others := by
    rw [List.cons_append, List.take_append_drop]
  have whole : ∀ c ∈ first :: others.take k, c.isDigit = true := fun c member =>
    all c (cut ▸ List.mem_append_left _ member)
  have fraction : AreDigits (others.drop k) := by
    refine ⟨?_, fun c member => all c (cut ▸ List.mem_append_right _ member)⟩
    rw [ne_eq, List.drop_eq_nil_iff]
    rw [eq, List.length_cons] at inside
    omega
  have shape : Double.positional (first :: others) point =
      first :: others.take k ++ 0x2e :: others.drop k := by
    have dot : Text.ofString "." = [0x2e] := rfl
    rw [Double.positional, if_neg (by omega), if_neg (by omega), eq, List.take_succ_cons,
      List.drop_succ_cons, dot, List.append_assoc]
    rfl
  have exponent : (0 : Int) - (others.drop k).length = point - (first :: others).length := by
    rw [List.length_drop, List.length_cons]
    rw [eq, List.length_cons] at inside
    omega
  have isNumber := isNumber_fraction grammar negative _ _
    (isWhole_cons first _ whole leading) fraction
  rw [Double.ofDigits, exponent, cut] at isNumber
  rw [shape]
  exact isNumber

private theorem positional_isNumber (negative : Bool) (first : CodePoint) (others : Text)
    (all : ∀ c ∈ first :: others, c.isDigit = true) (leading : first ≠ 0x30) (point : Int) :
    IsNumber grammar negative (Double.positional (first :: others) point)
      (pointed negative (first :: others) point) := by
  by_cases small : point ≤ 0
  · exact positional_small negative _ ⟨List.cons_ne_nil _ _, all⟩ point small
  · by_cases large : (first :: others).length ≤ point.toNat
    · exact positional_large negative first others all leading point ⟨Int.not_le.mp small, large⟩
    · exact positional_inside negative first others all leading point
        ⟨Int.not_le.mp small, Nat.lt_of_not_le large⟩

-- The exponent that a text ends with
private theorem scientific_exponent (width : Nat) (power : Int) :
    IsExponent (CodePoint.ofChar 'e' :: ((if power < 0 then [0x2d] else [0x2b]) ++
      (List.replicate (width - (Text.ofNat power.natAbs).length) CodePoint.zeroDigit ++
        Text.ofNat power.natAbs))) (some power) := by
  have are : AreDigits (List.replicate (width - (Text.ofNat power.natAbs).length)
      CodePoint.zeroDigit ++ Text.ofNat power.natAbs) :=
    ⟨List.append_ne_nil_of_right_ne_nil _ (Text.ofNat_ne_nil _), fun c member =>
      (List.mem_append.mp member).elim (zeros_digits _ c) (Text.isDigit_of_mem_ofNat _ c)⟩
  have sign : ((if power < 0 then [0x2d] else [0x2b]), decide (power < 0)) ∈ exponentSigns := by
    by_cases below : power < 0
    · simp [below, exponentSigns]
    · simp [below, exponentSigns]
  have isExponent : IsExponent (CodePoint.ofChar 'e' :: _) _ := .present (.inl rfl) sign are
  have value : (if decide (power < 0) = true then -(power.natAbs : Int) else power.natAbs) =
      power := by
    split <;> simp_all only [decide_eq_true_eq] <;> omega
  rw [Text.decimalValue_zeros_append, Text.decimalValue_ofNat, value] at isExponent
  exact isExponent

-- A text with an exponent
private theorem scientific_isNumber (negative : Bool) (width : Nat) (first : CodePoint)
    (others : Text) (all : ∀ c ∈ first :: others, c.isDigit = true) (leading : first ≠ 0x30)
    (point : Int) :
    IsNumber grammar negative (Double.scientific width (first :: others) (point - 1))
      (pointed negative (first :: others) point) := by
  have isExponent := scientific_exponent width (point - 1)
  generalize mark : CodePoint.ofChar 'e' :: _ = exponent at isExponent
  have isWhole := isWhole_cons first [] (fun c member => all c (List.mem_cons.mpr
    (.inl (List.mem_singleton.mp member)))) leading
  have shape : Double.scientific width (first :: others) (point - 1) =
      [first] ++ ((if others = [] then [] else 0x2e :: others) ++ exponent) := by
    have e : Text.ofString "e" = [CodePoint.ofChar 'e'] := rfl
    have minus : Text.ofString "-" = [0x2d] := rfl
    have plus : Text.ofString "+" = [0x2b] := rfl
    have dot : Text.ofString "." = [0x2e] := rfl
    rw [← mark]
    cases others <;> by_cases below : point - 1 < 0 <;>
      simp [Double.scientific, below, e, minus, plus, dot, CodePoint.zeroDigit]
  have shift : point - 1 - others.length = point - (first :: others).length := by
    rw [List.length_cons]
    omega
  have isNumber : IsNumber grammar negative
      ([first] ++ ((if others = [] then [] else 0x2e :: others) ++ exponent))
      (.number (Double.ofDigits negative [first] others (point - 1))) := by
    cases others with
    | nil => exact .double isWhole .absent isExponent (.inr rfl)
    | cons second others =>
      exact .double isWhole (.present ⟨List.cons_ne_nil _ _, fun c member =>
        all c (List.mem_cons_of_mem first member)⟩) isExponent (.inl rfl)
  rw [Double.ofDigits, List.singleton_append, shift] at isNumber
  rw [shape]
  exact isNumber

-- The significant digits of a positive number
private theorem significant_digits (n : Nat) (positive : 0 < n) : ∃ first others count,
    Text.trimEnd (· == CodePoint.ofChar '0') (Text.ofNat n) = first :: others ∧
    Text.ofNat n = first :: others ++ List.replicate count CodePoint.zeroDigit ∧
    first ≠ 0x30 ∧ ∀ c ∈ first :: others, c.isDigit = true := by
  obtain ⟨count, whole⟩ := Text.trimEnd_zeros (Text.ofNat n)
  have start := Text.head_ofNat n positive
  have value := Text.decimalValue_ofNat n
  cases eq : Text.trimEnd (· == CodePoint.ofChar '0') (Text.ofNat n) with
  | nil =>
    have zeros : List.replicate count CodePoint.zeroDigit = Text.ofNat n := by
      rw [← whole]
      exact (congrArg (· ++ List.replicate count CodePoint.zeroDigit) eq).symm
    rw [← zeros, Text.decimalValue_zeros] at value
    omega
  | cons first others =>
    have split : Text.ofNat n =
        first :: others ++ List.replicate count CodePoint.zeroDigit := by
      rw [← eq]
      exact whole.symm
    refine ⟨first, others, count, rfl, split, ?_, ?_⟩
    · rintro rfl
      rw [split] at start
      exact start rfl
    · intro c member
      apply Text.isDigit_of_mem_ofNat n c
      rw [split]
      exact List.mem_append_left _ member

private theorem pointed_shortest (negative : Bool) (m : Nat) (e : Int)
    (canonical : Double.Canonical m e) (positive : 0 < m) (digits : Text) (count : Nat)
    (written : Text.ofNat (Double.shortest m e).significand =
      digits ++ List.replicate count CodePoint.zeroDigit) :
    pointed negative digits ((Text.ofNat (Double.shortest m e).significand).length +
      (Double.shortest m e).exponent) = .number (.finite negative m e canonical) := by
  have value : Text.decimalValue digits * 10 ^ count = (Double.shortest m e).significand := by
    rw [← Text.decimalValue_append_zeros, ← written, Text.decimalValue_ofNat]
  have exponent : ((digits ++ List.replicate count CodePoint.zeroDigit).length : Int) +
      (Double.shortest m e).exponent - digits.length = (Double.shortest m e).exponent + count := by
    rw [List.length_append, List.length_replicate]
    omega
  rw [pointed, written, exponent, ← Double.ofDecimal_shift, value,
    Double.ofDecimal_shortest negative m e canonical positive]

/-- The text of a finite number denotes it in any layout. -/
theorem denotes_toText (layout : Double.Layout) (x : Double) (finite : x.isFinite = true) :
    Denotes grammar (x.toText layout) (.value (.number x)) := by
  cases x with
  -- Only finite numbers are written as numerals
  | infinite => cases finite
  | nan => cases finite
  | finite negative m e canonical =>
    have sign : (if negative then Text.ofString "-" else Text.ofString "") =
        signText negative := by
      cases negative <;> rfl
    rcases Nat.eq_zero_or_pos m with rfl | positive
    · -- Zero has one exponent only, so the text need not show it
      obtain rfl : e = -1074 := by
        have := canonical.2.2.2
        omega
      have zero : Text.ofString "0.0" = [0x30] ++ 0x2e :: [0x30] := rfl
      have value : Text.decimalValue ([0x30] ++ [0x30]) = 0 := by decide
      have isNumber := isNumber_fraction grammar negative _ _ zero_isWhole
        zero_isWhole.toAreDigits
      rw [Double.ofDigits, value] at isNumber
      simp only [Double.toText, if_true, sign, zero]
      exact .number negative isNumber
    · obtain ⟨first, others, count, trimmed, written, leading, all⟩ :=
        significant_digits _ (Double.shortest_pos m e canonical positive)
      have value := pointed_shortest negative m e canonical positive _ count written
      simp only [Double.toText, positive.ne', if_false, sign, trimmed]
      rw [← value]
      -- The layout chooses between the two notations, and both denote the same decimal
      split
      · exact .number negative (positional_isNumber negative first others all leading _)
      · exact .number negative (scientific_isNumber negative _ first others all leading _)

end

end Tenancy.Json
