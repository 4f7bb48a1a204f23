import Tenancy.Text.Basic

/-!
# Blanks

Each format names its own class of blanks. The narrowest is that of JSON documents; integers may
have the blanks of the Unicode standard around them; the environment file, statements and content
types also count the four information separators.
-/
namespace Tenancy.CodePoint

/-- The four blanks of a JSON document. -/
def isJsonBlank (c : CodePoint) : Bool :=
  c.val == 0x20 || c.val == 0x09 || c.val == 0x0a || c.val == 0x0d

/-- The property White_Space of the Unicode standard. -/
def isWhiteSpace (c : CodePoint) : Bool :=
  (0x09 ≤ c.val && c.val ≤ 0x0d) || c.val == 0x20 || c.val == 0x85 || c.val == 0xa0
    || c.val == 0x1680 || (0x2000 ≤ c.val && c.val ≤ 0x200a) || c.val == 0x2028
    || c.val == 0x2029 || c.val == 0x202f || c.val == 0x205f || c.val == 0x3000

/-- White space, and the four information separators U+001C to U+001F. -/
def isBlank (c : CodePoint) : Bool :=
  c.isWhiteSpace || (0x1c ≤ c.val && c.val ≤ 0x1f)

/-- The six ASCII blanks that numbers inside the embedded database may stand between. -/
def isAsciiBlank (c : CodePoint) : Bool :=
  c.val == 0x20 || (0x09 ≤ c.val && c.val ≤ 0x0d)

end Tenancy.CodePoint
