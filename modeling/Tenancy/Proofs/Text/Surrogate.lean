import Mathlib.Data.List.Basic
import Tenancy.Text.Encoding

/-!
# Surrogate pairs

A code point above U+FFFF and the two halves of its pair determine each other. A text may hold the
halves one by one; joining them gives the text that its escapes denote.
-/
namespace Tenancy

namespace CodePoint

theorem isHighSurrogate_iff (c : CodePoint) :
    c.isHighSurrogate = true ↔ 0xd800 ≤ c.val ∧ c.val ≤ 0xdbff := by
  simp only [isHighSurrogate, Bool.and_eq_true, decide_eq_true_eq]

theorem isLowSurrogate_iff (c : CodePoint) :
    c.isLowSurrogate = true ↔ 0xdc00 ≤ c.val ∧ c.val ≤ 0xdfff := by
  simp only [isLowSurrogate, Bool.and_eq_true, decide_eq_true_eq]

theorem isSurrogate_iff (c : CodePoint) :
    c.isSurrogate = true ↔ c.isHighSurrogate = true ∨ c.isLowSurrogate = true := by
  simp only [isSurrogate, isHighSurrogate_iff, isLowSurrogate_iff, Bool.and_eq_true,
    decide_eq_true_eq]
  omega

theorem splitSurrogates_surrogates (c : CodePoint) (above : 0x10000 ≤ c.val) :
    c.splitSurrogates.1.isHighSurrogate = true ∧ c.splitSurrogates.2.isLowSurrogate = true := by
  have bound := c.isLt
  rw [isHighSurrogate_iff, isLowSurrogate_iff]
  simp only [splitSurrogates, Fin.val_ofNat]
  omega

theorem joinSurrogates_splitSurrogates (c : CodePoint) (above : 0x10000 ≤ c.val) :
    joinSurrogates c.splitSurrogates.1 c.splitSurrogates.2 = c := by
  have bound := c.isLt
  apply Fin.ext
  simp only [joinSurrogates, splitSurrogates, Fin.val_ofNat]
  omega

theorem not_isLowSurrogate_of_high (c : CodePoint) (high : c.isHighSurrogate = true) :
    ¬c.isLowSurrogate = true := by
  rw [isHighSurrogate_iff] at high
  rw [isLowSurrogate_iff]
  omega

/-- What a pair is joined to is no surrogate. -/
theorem not_isSurrogate_joinSurrogates (high low : CodePoint)
    (isHigh : high.isHighSurrogate = true) (isLow : low.isLowSurrogate = true) :
    ¬(joinSurrogates high low).isSurrogate = true := by
  rw [isHighSurrogate_iff] at isHigh
  rw [isLowSurrogate_iff] at isLow
  rw [isSurrogate_iff, isHighSurrogate_iff, isLowSurrogate_iff]
  simp only [joinSurrogates, Fin.val_ofNat]
  omega

end CodePoint

namespace Text

/-- The text with every high surrogate joined to a low one that follows it at once. -/
def joined : Text → Text
  | high :: low :: rest =>
    if high.isHighSurrogate && low.isLowSurrogate then
      CodePoint.joinSurrogates high low :: joined rest
    else high :: joined (low :: rest)
  | rest => rest

/-- Whether no high surrogate has a low one right behind it. -/
def Unpaired : Text → Prop
  | high :: low :: rest =>
    ¬(high.isHighSurrogate = true ∧ low.isLowSurrogate = true) ∧ Unpaired (low :: rest)
  | _ => True

theorem joined_of_unpaired (t : Text) (unpaired : Unpaired t) : t.joined = t := by
  induction t with
  | nil => rfl
  | cons c rest ih =>
    cases rest with
    | nil => rfl
    | cons next rest =>
      have apart : ¬(c.isHighSurrogate && next.isLowSurrogate) = true := by
        rw [Bool.and_eq_true]
        exact unpaired.1
      rw [joined, if_neg apart, ih unpaired.2]

theorem unpaired_cons (c : CodePoint) (t : Text) (unpaired : Unpaired t)
    (apart : c.isHighSurrogate = true → ∀ low ∈ t.head?, ¬low.isLowSurrogate = true) :
    Unpaired (c :: t) := by
  cases t with
  | nil => exact trivial
  | cons low rest => exact ⟨fun pair => apart pair.1 low rfl pair.2, unpaired⟩

-- Joining leaves no pair; a low surrogate at the start was there before
private theorem joined_spec (t : Text) : Unpaired t.joined ∧
    ∀ c ∈ t.joined.head?, c.isLowSurrogate = true → t.head? = some c := by
  induction t using joined.induct with
  | case1 high low rest pair ih =>
    obtain ⟨isHigh, isLow⟩ := Bool.and_eq_true_iff.mp pair
    have none := CodePoint.not_isSurrogate_joinSurrogates high low isHigh isLow
    rw [CodePoint.isSurrogate_iff, not_or] at none
    rw [joined, if_pos pair]
    refine ⟨unpaired_cons _ _ ih.1 fun isHigh => absurd isHigh none.1, fun c head isLow => ?_⟩
    obtain rfl := Option.some.inj head
    exact absurd isLow none.2
  | case2 high low rest apart ih =>
    rw [joined, if_neg apart]
    -- A low surrogate that now stands behind `high` stood there before, and would have been joined
    refine ⟨unpaired_cons _ _ ih.1 fun isHigh c head isLow => ?_, fun c head _ => head⟩
    obtain rfl := Option.some.inj (ih.2 c head isLow)
    exact apart (Bool.and_eq_true_iff.mpr ⟨isHigh, isLow⟩)
  | case3 t single =>
    cases t with
    | nil => exact ⟨trivial, by simp [joined]⟩
    | cons c rest =>
      cases rest with
      | nil => exact ⟨trivial, fun _ head _ => head⟩
      | cons next rest => exact absurd rfl (single c next rest)

/-- Joining leaves no pair. -/
theorem unpaired_joined (t : Text) : Unpaired t.joined := (joined_spec t).1

end Text

end Tenancy
