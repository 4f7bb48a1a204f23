import Tenancy.Text.Encoding
import Tenancy.Text.Printable

/-!
# Quoted display forms

Messages show a text between apostrophes, or between quotation marks if it holds an apostrophe
and no quotation mark. The delimiter and the backslash are escaped, and so is everything that is
not printable. Octets are shown likewise behind a `b`.
-/
namespace Tenancy

def displayDelimiter (t : Text) : CodePoint :=
  if t.contains CodePoint.apostrophe && !t.contains CodePoint.quote then .quote else .apostrophe

/-- One code point inside a display form. -/
def CodePoint.displayed (delimiter c : CodePoint) : Text :=
  if c = delimiter ∨ c = .backslash then [.backslash, c]
  else if c = 0x0a then "\\n"
  else if c = 0x0d then "\\r"
  else if c = 0x09 then "\\t"
  else if c.isPrintable then [c]
  else if c.val < 0x100 then "\\x" ++ Text.hex 2 c.val
  else if c.val < 0x10000 then "\\u" ++ Text.hex 4 c.val
  else "\\U" ++ Text.hex 8 c.val

/-- The display form of a text. -/
def Text.quoted (t : Text) : Text :=
  let delimiter := displayDelimiter t
  delimiter :: t.flatMap (CodePoint.displayed delimiter) ++ [delimiter]

/-- A text in ASCII: everything else is given by number. -/
def Text.inAscii (t : Text) : Text :=
  t.flatMap fun c =>
    if c.val < 0x80 then [c]
    else if c.val < 0x100 then "\\x" ++ Text.hex 2 c.val
    else if c.val < 0x10000 then "\\u" ++ Text.hex 4 c.val
    else "\\U" ++ Text.hex 8 c.val

/-- The display form of octets: those of ASCII as characters, the others by number. -/
def Octets.quoted (octets : Octets) : Text :=
  let delimiter := displayDelimiter (octets.map fun octet => Fin.ofNat 0x110000 octet.toNat)
  let shown (octet : UInt8) : Text :=
    if octet.toNat < 0x80 then CodePoint.displayed delimiter (Fin.ofNat 0x110000 octet.toNat)
    else "\\x" ++ Text.hex 2 octet.toNat
  CodePoint.ofChar 'b' :: delimiter :: octets.flatMap shown ++ [delimiter]

end Tenancy
