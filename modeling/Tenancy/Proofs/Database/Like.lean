import Tenancy.Database.Like

/-!
# Patterns that search

A pattern with a percent sign at each end and no other sign is like the texts that contain what
stands between, where letters from A to Z count in either case. What contains a text that lacks a
separator contains it on one side of every separator.
-/
namespace Tenancy

/-! ## Containing a text -/

section
variable {α : Type} {needle s t : List α} {c : α}

/-- What is found across an element is found before it, behind it, or around it. -/
theorem infix_across (needle s t : List α) (c : α) :
    needle <:+: s ++ c :: t ↔
      needle <:+: s ∨ needle <:+: t ∨ ∃ x y, needle = x ++ c :: y ∧ x <:+ s ∧ y <+: t := by
  rw [List.infix_append_iff, List.infix_cons_iff]
  constructor
  · rintro (before | (starts | behind) | ⟨x, y, rfl, ends, starts⟩)
    · exact .inl before
    · rcases List.prefix_cons_iff.mp starts with rfl | ⟨y, rfl, behind⟩
      · exact .inl List.nil_infix
      · exact .inr (.inr ⟨[], y, rfl, List.nil_suffix, behind⟩)
    · exact .inr (.inl behind)
    · rcases List.prefix_cons_iff.mp starts with rfl | ⟨y, rfl, behind⟩
      · left
        rw [List.append_nil]
        exact ends.isInfix
      · exact .inr (.inr ⟨x, y, rfl, ends, behind⟩)
  · rintro (before | behind | ⟨x, y, rfl, ends, starts⟩)
    · exact .inl before
    · exact .inr (.inl (.inr behind))
    · exact .inr (.inr ⟨x, c :: y, rfl, ends, List.cons_prefix_cons.mpr ⟨rfl, starts⟩⟩)

/-- What lacks a separator is found on one side of it. -/
theorem infix_apart (absent : c ∉ needle) :
    needle <:+: s ++ c :: t ↔ needle <:+: s ∨ needle <:+: t := by
  rw [infix_across]
  constructor
  · rintro (before | behind | ⟨x, y, rfl, -, -⟩)
    · exact .inl before
    · exact .inr behind
    · simp at absent
  · rintro (before | behind)
    · exact .inl before
    · exact .inr (.inl behind)

end

namespace Text

/-! ## Patterns -/

theorem mem_endings_iff (ending t : Text) : ending ∈ t.endings ↔ ending <:+ t := by
  induction t with
  | nil => simp [endings]
  | cons c t ih => simp only [endings, List.mem_cons, ih, List.suffix_cons_iff]

/-- Whether a text has no sign of a pattern in it. -/
def IsLiteral (t : Text) : Prop :=
  ∀ c ∈ t, c ≠ CodePoint.ofChar '%' ∧ c ≠ CodePoint.ofChar '_'

-- A percent sign at the end is like every rest
private theorem isLike_start (needle t : Text) (literal : needle.IsLiteral) :
    isLike (needle ++ [CodePoint.ofChar '%']) t = true ↔ needle.asciiLower <+: t.asciiLower := by
  induction needle generalizing t with
  | nil =>
    have ends : [] ∈ t.endings := (mem_endings_iff [] t).mpr List.nil_suffix
    simp only [List.nil_append, isLike, if_true, List.any_eq_true]
    constructor
    · intro _
      exact List.nil_prefix
    · intro _
      exact ⟨[], ends, rfl⟩
  | cons p needle ih =>
    obtain ⟨notPercent, notLine⟩ := literal p List.mem_cons_self
    have rest := fun t => ih t fun c isIn => literal c (List.mem_cons_of_mem p isIn)
    cases t with
    | nil => simp [isLike, notPercent, asciiLower]
    | cons c t =>
      have line : (p == CodePoint.ofChar '_') = false := beq_eq_false_iff_ne.mpr notLine
      simp only [List.cons_append, isLike, if_neg notPercent, line, Bool.false_or,
        Bool.and_eq_true, beq_iff_eq, rest]
      simp only [asciiLower, List.map_cons, List.cons_prefix_cons]

/-- A pattern between percent signs is like the texts that contain it in letters of either case. -/
theorem isLike_contains (needle t : Text) (literal : needle.IsLiteral) :
    isLike (CodePoint.ofChar '%' :: (needle ++ [CodePoint.ofChar '%'])) t = true ↔
      needle.asciiLower <:+: t.asciiLower := by
  simp only [isLike, if_true, List.any_eq_true, mem_endings_iff, isLike_start needle _ literal]
  rw [List.infix_iff_prefix_suffix]
  constructor
  · rintro ⟨ending, ends, starts⟩
    exact ⟨ending.asciiLower, starts, ends.map CodePoint.asciiLower⟩
  · rintro ⟨lower, starts, ends⟩
    obtain ⟨ending, isEnding, rfl⟩ := List.suffix_map_iff.mp ends
    exact ⟨ending, isEnding, starts⟩

end Text

end Tenancy
