import Mathlib.Data.List.TakeWhile
import Tenancy.Text.Encoding

/-!
# Texts that have octets

A text has octets if none of its code points is a surrogate.
-/
namespace Tenancy.Text

theorem encodeFault?_eq_none (t : Text) :
    t.encodeFault? = none ↔ ∀ c ∈ t, ¬c.isSurrogate = true := by
  unfold encodeFault?
  constructor
  · intro none c member isSurrogate
    split at none
    next empty =>
      have all := List.dropWhile_eq_nil_iff.mp empty c member
      simp [isSurrogate] at all
    next => cases none
  · intro plain
    have empty : t.dropWhile (!·.isSurrogate) = [] :=
      List.dropWhile_eq_nil_iff.mpr fun c member => by simpa using plain c member
    rw [empty]

/-- Whether a text has octets. -/
def isEncodable (t : Text) : Bool := t.all (!·.isSurrogate)

theorem encodeFault?_eq_none_iff (t : Text) : t.encodeFault? = none ↔ t.isEncodable = true := by
  rw [encodeFault?_eq_none, isEncodable, List.all_eq_true]
  simp

end Tenancy.Text
