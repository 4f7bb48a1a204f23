import Tenancy.Database.Query
import Tenancy.Proofs.Sql.Sendable

/-!
# Texts in the embedded database

A text without surrogates is passed as it is, is kept as it is by a column of texts, and is the same
as another one only if it is that one.
-/
namespace Tenancy

namespace Text

theorem le_refl (t : Text) : le t t = true := by
  induction t with
  | nil => rfl
  | cons c t ih => simpa [le] using ih

theorem le_antisymm (s t : Text) (below : le s t = true) (above : le t s = true) : s = t := by
  induction s generalizing t with
  | nil =>
    cases t with
    | nil => rfl
    | cons c t => cases above
  | cons a s ih =>
    cases t with
    | nil => cases below
    | cons b t =>
      simp only [le] at below above
      split at below
      next eq =>
        subst eq
        simp only [if_true] at above
        rw [ih t below above]
      next differ =>
        rw [if_neg (Ne.symm differ)] at above
        simp only [decide_eq_true_eq] at below above
        omega

end Text

namespace Cell

theorem same_text (s t : Text) : same (.text s) (.text t) = (s == t) := by
  have order (a b : Text) : le (.text a) (.text b) = Text.le a b := by
    simp [le, rank]
  rw [same, order, order, Bool.eq_iff_iff, Bool.and_eq_true, beq_iff_eq]
  constructor
  · rintro ⟨below, above⟩
    exact Text.le_antisymm s t below above
  · rintro rfl
    exact ⟨Text.le_refl s, Text.le_refl s⟩

theorem ofValue_text (position : Nat) (t : Text) (encodable : t.isEncodable = true) :
    ofValue position (.text t) = .ok (.text t) := by
  rw [ofValue, (Text.encodeFault?_eq_none_iff t).mpr encodable]

theorem ofValue_text_error (position : Nat) (t : Text) (fault : EncodeFault)
    (refused : t.encodeFault? = some fault) :
    ofValue position (.text t) = .error (.unencodable fault) := by
  rw [ofValue, refused]

theorem ofValue_text_ok (position : Nat) (t : Text) (cell : Cell)
    (passed : ofValue position (.text t) = .ok cell) :
    t.isEncodable = true ∧ cell = .text t := by
  rw [← Text.encodeFault?_eq_none_iff]
  cases refused : t.encodeFault? with
  | none =>
    rw [ofValue_text position t ((Text.encodeFault?_eq_none_iff t).mp refused)] at passed
    exact ⟨rfl, (Except.ok.inj passed).symm⟩
  | some fault =>
    rw [ofValue_text_error position t fault refused] at passed
    cases passed

/-- The cell of a text that may be missing. -/
def optional (t : Option Text) : Cell := t.elim .null .text

theorem optional_injective : Function.Injective optional := by
  rintro (_ | s) (_ | t) same <;> cases same <;> rfl

end Cell

namespace Database

theorem equal_text (s t : Text) : equal true (.text s) (.text t) = ofBool (s == t) := by
  simp [equal, Cell.asText, Cell.same_text]

@[simp]
theorem holds_ofBool (b : Bool) : holds (ofBool b) = b := by
  cases b <;> rfl

/-- A cell in a column of texts equals a text if its text is that one. -/
theorem holds_equal_text (cell : Cell) (t : Text) :
    holds (equal true cell (.text t)) = (cell.asText == .text t) := by
  have texts (s : Text) : (Cell.text s == .text t) = (s == t) := by
    rw [Bool.eq_iff_iff, beq_iff_eq, beq_iff_eq, Cell.text.injEq]
  cases cell with
  | null => rfl
  | int n => simp [equal, Cell.asText, Cell.same_text, texts]
  | real x => simp [equal, Cell.asText, Cell.same_text, texts]
  | text s => simp [equal, Cell.asText, Cell.same_text, texts]
  | blob data => simp [equal, Cell.asText, Cell.same, Cell.le, Cell.rank]

/-- Null is no text. -/
theorem holds_equal_optional (s : Option Text) (t : Text) :
    holds (equal true (Cell.optional s) (.text t)) = (s == some t) := by
  cases s with
  | none => rfl
  | some s => simp [Cell.optional, equal_text]

/-- A conjunction holds where both conditions hold; null is not enough. -/
theorem holds_conjunction (a b : Cell) : holds (conjunction a b) = (holds a && holds b) := by
  rw [conjunction]
  cases both : holds a && holds b with
  | true => rfl
  | false =>
    rw [if_neg Bool.false_ne_true]
    split <;> rfl

theorem holds_and (frame : Frame) (left right : Sql.Expr) :
    holds (evaluate frame (.and left right)) =
      (holds (evaluate frame left) && holds (evaluate frame right)) := by
  rw [evaluate, holds_conjunction]

end Database

end Tenancy
