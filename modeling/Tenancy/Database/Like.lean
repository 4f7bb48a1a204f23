import Tenancy.Text.Basic

/-!
# Text patterns

In a pattern a percent sign stands for any text and a low line for any one character. Letters from
A to Z match in either case.
-/
namespace Tenancy

/-- A text and all its endings, the longest first. -/
def Text.endings : Text → List Text
  | [] => [[]]
  | c :: rest => (c :: rest) :: endings rest

def Text.isLike : (pattern t : Text) → Bool
  | [], t => t.isEmpty
  | p :: pattern, t =>
    if p = CodePoint.ofChar '%' then t.endings.any fun ending => isLike pattern ending
    else match t with
      | [] => false
      | c :: rest =>
        (p == CodePoint.ofChar '_' || p.asciiLower == c.asciiLower) && isLike pattern rest

end Tenancy
