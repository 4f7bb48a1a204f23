import Tenancy.Sql.Dialect
import Tenancy.Text.Blank

/-!
# Identifiers

A name stands bare in a statement if it consists of lower case letters, digits, low lines and
dollar signs and does not start with a digit or a dollar sign. Any other name is quoted: the quote
character inside it is written twice, and where statements mark parameters with a percent sign, so
is the percent sign.
-/
namespace Tenancy.Sql

/-- The characters that names are made of without quotes. -/
def isBareCharacter (c : CodePoint) : Bool :=
  -- Two letters outside ASCII have a capital from A to Z and are lower case themselves: the dotless
  -- i and the long s
  c.isAsciiLower || c.isDigit || c.val == 0x5f || c.val == 0x24 || c.val == 0x131 || c.val == 0x17f

/-- Whether a name stands without quotes. -/
def isBare : Text → Bool
  | [] => false
  | c :: rest => isBareCharacter c && !c.isDigit && c.val != 0x24 && rest.all isBareCharacter

def quoteCharacter : Dialect → CodePoint
  | .mysql => 0x60
  | .postgres => .quote
  | .sqlite => .quote

/-- Whether a percent sign inside a quoted name is written twice. -/
def doublesPercent : Dialect → Bool
  | .mysql => true
  | .postgres => true
  | .sqlite => false

def quotedCharacter (dialect : Dialect) (c : CodePoint) : Text :=
  if c = quoteCharacter dialect || (doublesPercent dialect && c.val == 0x25) then [c, c] else [c]

def identifier (dialect : Dialect) (name : Text) : Text :=
  if isBare name then name
  else
    quoteCharacter dialect :: name.flatMap (quotedCharacter dialect) ++ [quoteCharacter dialect]

/-- A statement on one line: each line break, with the blanks around it, becomes one blank. -/
def oneLine (statement : Text) : Text :=
  let lines := (Text.splitOn .newline statement).map (Text.trim CodePoint.isBlank)
  Text.join [.space] (lines.filter (!·.isEmpty))

end Tenancy.Sql
