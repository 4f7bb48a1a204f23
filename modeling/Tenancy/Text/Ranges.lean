import Tenancy.Text.Basic

/-!
# Ranges of code points

A property of the Unicode standard is a list of inclusive ranges in ascending order.
-/
namespace Tenancy.CodePoint

/-- Whether a code point lies in one of the ranges. -/
def isIn (c : CodePoint) (ranges : List (Nat × Nat)) : Bool :=
  ranges.any fun (first, last) => first ≤ c.val && c.val ≤ last

end Tenancy.CodePoint
