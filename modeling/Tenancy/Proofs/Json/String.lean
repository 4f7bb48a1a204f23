import Tenancy.Json.Writer
import Tenancy.Proofs.Json.Soundness
import Tenancy.Proofs.Text.Surrogate

/-!
# Strings in documents

What is written between quotation marks spells the text that was written. Where everything outside
ASCII is escaped, a high surrogate and a low one behind it are spelt as the code point that they
denote, because their two escapes are those of that code point.
-/
namespace Tenancy.Json

/-! ## Escapes of units -/

private theorem hexDigit?_digitChar : ∀ digit < 16,
    (CodePoint.ofChar (Nat.digitChar digit)).hexDigit? = some digit := by
  decide

private theorem toDigits_sixteen (n : Nat) (small : n < 0x10000) :
    ∃ a b c d, List.replicate (4 - (Nat.toDigits 16 n).length) '0' ++ Nat.toDigits 16 n =
      [Nat.digitChar a, Nat.digitChar b, Nat.digitChar c, Nat.digitChar d] ∧
      (a < 16 ∧ b < 16 ∧ c < 16 ∧ d < 16) ∧ a * 0x1000 + b * 0x100 + c * 0x10 + d = n := by
  have last (k : Nat) (more : 16 ≤ k) :
      Nat.toDigits 16 k = Nat.toDigits 16 (k / 16) ++ [Nat.digitChar (k % 16)] :=
    Nat.toDigits_of_base_le (by decide) more
  have one (k : Nat) (few : k < 16) : Nat.toDigits 16 k = [Nat.digitChar k] :=
    Nat.toDigits_of_lt_base few
  -- Where a number has fewer than four digits, the quotients for the missing ones are zero
  refine ⟨n / 16 / 16 / 16, n / 16 / 16 % 16, n / 16 % 16, n % 16, ?_, by omega, by omega⟩
  by_cases first : n < 16
  · have zeros : n / 16 = 0 ∧ n % 16 = n := by omega
    rw [one n first, zeros.1, zeros.2]
    rfl
  by_cases second : n / 16 < 16
  · have zeros : n / 16 / 16 = 0 ∧ n / 16 % 16 = n / 16 := by omega
    rw [last n (by omega), one _ second, zeros.1, zeros.2]
    rfl
  by_cases third : n / 16 / 16 < 16
  · have zeros : n / 16 / 16 / 16 = 0 ∧ n / 16 / 16 % 16 = n / 16 / 16 := by omega
    rw [last n (by omega), last _ (by omega), one _ third, zeros.1, zeros.2]
    rfl
  · rw [last n (by omega), last _ (by omega), last _ (by omega), one _ (by omega)]
    rfl

/-- The four digits of an escape denote its unit. -/
theorem unitEscape_digits (unit : CodePoint) (small : unit.val < 0x10000) :
    ∃ a b c d, unitEscape unit.val = [0x5c, 0x75, a, b, c, d] ∧ unit? a b c d = some unit := by
  obtain ⟨a, b, c, d, digits, ⟨ha, hb, hc, hd⟩, value⟩ := toDigits_sixteen unit.val small
  refine ⟨CodePoint.ofChar (Nat.digitChar a), CodePoint.ofChar (Nat.digitChar b),
    CodePoint.ofChar (Nat.digitChar c), CodePoint.ofChar (Nat.digitChar d), ?_, ?_⟩
  · have hex : Text.hex 4 unit.val = (List.replicate (4 - (Nat.toDigits 16 unit.val).length) '0'
        ++ Nat.toDigits 16 unit.val).map CodePoint.ofChar := by
      rw [Text.hex, List.map_append, List.map_replicate, List.length_map]
    rw [unitEscape, hex, digits]
    rfl
  · simp only [unit?, hexDigit?_digitChar a ha, hexDigit?_digitChar b hb, hexDigit?_digitChar c hc,
      hexDigit?_digitChar d hd, value]
    rw [Fin.ofNat_val_eq_self]

/-! ## Characters -/

/-- How one code point may stand in a string. -/
inductive Form (style : Style) (c : CodePoint) : Text → Prop
  | plain (printable : 0x20 ≤ c.val) (notQuote : c ≠ .quote) (notEscape : c ≠ .backslash)
      (shown : style.ascii = true → c.val < 0x7f) : Form style c [c]
  | letter (letter : CodePoint) (notUnicode : letter ≠ CodePoint.ofChar 'u')
      (denoted : escaped? letter = some c) (low : c.val < 0x7f) :
      Form style c [.backslash, letter]
  | unit (small : c.val < 0x10000) (hidden : style.ascii = true ∨ c.val < 0x20) :
      Form style c (unitEscape c.val)
  | pair (large : 0x10000 ≤ c.val) (hidden : style.ascii = true) :
      Form style c (unitEscape c.splitSurrogates.1.val ++ unitEscape c.splitSurrogates.2.val)

theorem character_form (style : Style) (c : CodePoint) : Form style c (style.character c) := by
  unfold Style.character
  split_ifs with mark line carriage tab feed bell control shown small
  · rcases mark with rfl | rfl
    · exact .letter _ (by decide) (by decide) (by decide)
    · exact .letter _ (by decide) (by decide) (by decide)
  · subst line
    exact .letter (CodePoint.ofChar 'n') (by decide) (by decide) (by decide)
  · subst carriage
    exact .letter (CodePoint.ofChar 'r') (by decide) (by decide) (by decide)
  · subst tab
    exact .letter (CodePoint.ofChar 't') (by decide) (by decide) (by decide)
  · subst feed
    exact .letter (CodePoint.ofChar 'f') (by decide) (by decide) (by decide)
  · subst bell
    exact .letter (CodePoint.ofChar 'b') (by decide) (by decide) (by decide)
  · exact .unit (by omega) (.inr control)
  · obtain ⟨notQuote, notEscape⟩ := not_or.mp mark
    refine .plain (Nat.le_of_not_lt control) notQuote notEscape fun ascii => ?_
    simpa [ascii] using shown
  · exact .unit small (.inl (by simp_all))
  · exact .pair (Nat.le_of_not_lt small) (by simp_all)

/-! ## Whole strings -/

-- Written code points spell no low surrogate unless they start with one
private theorem not_escapesLow (style : Style) (t : Text)
    (notLow : ∀ c ∈ t.head?, ¬c.isLowSurrogate = true) :
    ¬EscapesLow (t.flatMap style.character) := by
  rintro ⟨a, b, c, d, rest, low, eq, denoted, isLow⟩
  cases t with
  | nil => cases eq
  | cons point t =>
    have form := character_form style point
    rw [List.flatMap_cons] at eq
    generalize style.character point = text at form eq
    -- The first escape is that of the code point itself or of the first half of its pair
    cases form with
    | plain _ _ notEscape _ => exact notEscape (List.cons.inj eq).1
    | letter letter notUnicode => exact notUnicode (List.cons.inj (List.cons.inj eq).2).1
    | unit small _ =>
      obtain ⟨a', b', c', d', digits, denoted'⟩ := unitEscape_digits point small
      rw [digits] at eq
      simp only [List.cons_append, List.cons.injEq, true_and] at eq
      obtain ⟨-, rfl, rfl, rfl, rfl, -⟩ := eq
      obtain rfl := Option.some.inj (denoted.symm.trans denoted')
      exact notLow low rfl isLow
    | pair large _ =>
      have high := (CodePoint.splitSurrogates_surrogates point large).1
      have small := (CodePoint.isHighSurrogate_iff _).mp high
      obtain ⟨a', b', c', d', digits, denoted'⟩ := unitEscape_digits point.splitSurrogates.1
        (by omega)
      rw [digits] at eq
      simp only [List.cons_append, List.cons.injEq, true_and] at eq
      obtain ⟨-, rfl, rfl, rfl, rfl, -⟩ := eq
      obtain rfl := Option.some.inj (denoted.symm.trans denoted')
      exact CodePoint.not_isLowSurrogate_of_high _ high isLow

-- A unit that is not joined to what follows it
private theorem spells_unit (unit : CodePoint) (t s : Text) (small : unit.val < 0x10000)
    (apart : unit.isHighSurrogate = true → ¬EscapesLow t) (spells : Spells t s) :
    Spells (unitEscape unit.val ++ t) (unit :: s) := by
  obtain ⟨a, b, c, d, digits, denoted⟩ := unitEscape_digits unit small
  rw [digits]
  exact .unit denoted apart spells

private theorem spells_pair (high low : CodePoint) (t s : Text)
    (isHigh : high.isHighSurrogate = true) (isLow : low.isLowSurrogate = true)
    (spells : Spells t s) : Spells (unitEscape high.val ++ (unitEscape low.val ++ t))
      (CodePoint.joinSurrogates high low :: s) := by
  have small := (CodePoint.isHighSurrogate_iff high).mp isHigh
  have small' := (CodePoint.isLowSurrogate_iff low).mp isLow
  obtain ⟨a, b, c, d, digits, denoted⟩ := unitEscape_digits high (by omega)
  obtain ⟨a', b', c', d', digits', denoted'⟩ := unitEscape_digits low (by omega)
  rw [digits, digits']
  exact .pair denoted isHigh denoted' isLow spells

-- One code point that is not joined to what follows it is spelt by itself
private theorem spells_character (style : Style) (c : CodePoint) (tail s : Text)
    (apart : style.ascii = true → c.isHighSurrogate = true →
      ∀ low ∈ tail.head?, ¬low.isLowSurrogate = true)
    (spells : Spells (tail.flatMap style.character) s) :
    Spells (style.character c ++ tail.flatMap style.character) (c :: s) := by
  have form := character_form style c
  generalize style.character c = text at form
  cases form with
  | plain printable notQuote notEscape _ => exact .plain printable notQuote notEscape spells
  | letter letter _ denoted _ => exact .letter ((escaped?_eq_some_iff letter c).mp denoted) spells
  | unit small hidden =>
    refine spells_unit c _ s small (fun high => ?_) spells
    apply not_escapesLow style tail
    rcases hidden with ascii | control
    · exact apart ascii high
    · rw [CodePoint.isHighSurrogate_iff] at high
      omega
  | pair large _ =>
    obtain ⟨high, low⟩ := CodePoint.splitSurrogates_surrogates c large
    have pair := spells_pair _ _ _ s high low spells
    rw [CodePoint.joinSurrogates_splitSurrogates c large] at pair
    rw [List.append_assoc]
    exact pair

/-- The text that is read from a string in a style. -/
def Style.reading (style : Style) (t : Text) : Text := if style.ascii then t.joined else t

-- A string that keeps its characters spells its text
private theorem spells_shown (style : Style) (shown : style.ascii = false) (t : Text) :
    Spells (t.flatMap style.character) t := by
  induction t with
  | nil => exact .nil
  | cons c t ih =>
    rw [List.flatMap_cons]
    exact spells_character style c t t (fun ascii => by simp [shown] at ascii) ih

private theorem character_unit (style : Style) (ascii : style.ascii = true) (c : CodePoint)
    (above : 0x7f ≤ c.val) (small : c.val < 0x10000) : style.character c = unitEscape c.val := by
  have form := character_form style c
  generalize style.character c = text at form
  cases form with
  | plain _ _ _ shown =>
    have := shown ascii
    omega
  | letter _ _ _ low => omega
  | unit => rfl
  | pair large => omega

-- A string in ASCII spells its text with the surrogate pairs joined
private theorem spells_ascii (style : Style) (ascii : style.ascii = true) (t : Text) :
    Spells (t.flatMap style.character) t.joined := by
  -- The cases are those of joining: a pair, a code point before another, and the rest
  induction t using Text.joined.induct with
  | case1 high low t pair ih =>
    obtain ⟨isHigh, isLow⟩ := Bool.and_eq_true_iff.mp pair
    have highBounds := (CodePoint.isHighSurrogate_iff high).mp isHigh
    have lowBounds := (CodePoint.isLowSurrogate_iff low).mp isLow
    rw [List.flatMap_cons, List.flatMap_cons,
      character_unit style ascii high (by omega) (by omega),
      character_unit style ascii low (by omega) (by omega), Text.joined, if_pos pair]
    exact spells_pair high low _ _ isHigh isLow ih
  | case2 c next t apart ih =>
    rw [List.flatMap_cons, Text.joined, if_neg apart]
    refine spells_character style c (next :: t) _ (fun _ isHigh low head isLow => ?_) ih
    obtain rfl := Option.some.inj head
    exact apart (Bool.and_eq_true_iff.mpr ⟨isHigh, isLow⟩)
  | case3 t single =>
    cases t with
    | nil => exact .nil
    | cons c t =>
      cases t with
      | nil => exact spells_character style c [] [] (by simp) .nil
      | cons next t => exact absurd rfl (single c next t)

/-- What is written between quotation marks spells the text that is read. -/
theorem spells_written (style : Style) (t : Text) :
    Spells (t.flatMap style.character) (style.reading t) := by
  unfold Style.reading
  split
  next ascii => exact spells_ascii style ascii t
  next shown => exact spells_shown style (by simpa using shown) t

end Tenancy.Json
