import Tenancy.Value.Convert

/-!
# Faults of templates

Why a template cannot be filled: it is no template, it names an argument that is not there or a
part that an argument does not have, or an argument cannot be shown as the template asks.
-/
namespace Tenancy

/-- A collection whose elements are found by their positions. -/
inductive Sequence where
  | text
  | octets
  | list
  | tuple
  deriving DecidableEq, Repr

/-- The words for a position behind the last element. -/
def Sequence.outOfRangeMessage : Sequence → String
  | .text => "string index out of range"
  | .octets => "index out of range"
  | .list => "list index out of range"
  | .tuple => "tuple index out of range"

/-- The words for a name in the place of a position. -/
def Sequence.notAPositionMessage : Sequence → String
  | .text => "string indices must be integers, not 'str'"
  | .octets => "byte indices must be integers or slices, not str"
  | .list => "list indices must be integers or slices, not str"
  | .tuple => "tuple indices must be integers or slices, not str"

/-- What a layout may ask for that not every kind of argument has. -/
inductive LayoutItem where
  | sign
  | blankSign
  | unsignedZero
  | alternate
  | innerAlignment
  | precision
  deriving DecidableEq, Repr

def LayoutItem.message : LayoutItem → String
  | .sign => "Sign"
  | .blankSign => "Space"
  | .unsignedZero => "Negative zero coercion (z)"
  | .alternate => "Alternate form (#)"
  | .innerAlignment => "'=' alignment"
  | .precision => "Precision"

/-- Why a template cannot be filled. -/
inductive TemplateFault where
  /-- The text is no template. -/
  | malformed (reason : String)
  | noPosition (index : Nat)
  /-- No argument, or no entry of one, has the name or key that is shown. -/
  | noKey (shown : Text)
  | noAttribute (owner : Text) (name : Text)
  | outOfRange (sequence : Sequence)
  | notAPosition (sequence : Sequence)
  | notSubscriptable (typeName : String)
  | unknownConversion (c : CodePoint)
  /-- The type has no layouts. -/
  | noLayouts (typeName : String)
  | invalidLayout (layout : Text) (typeName : String)
  | unknownKind (kind : CodePoint) (typeName : String)
  | notGrouped (separator kind : CodePoint)
  /-- A layout asks for what `place` does not have. -/
  | notAllowed (item : LayoutItem) (place : String)
  | tooFewArguments
  | tooManyArguments
  /-- A number of a kind is wanted. -/
  | notANumber (letter : CodePoint) (wanted : String) (typeName : String)
  | notReal (typeName : String)
  | unknownLetter (letter : CodePoint) (index : Nat)
  /-- An argument is of a type that does not fit. -/
  | unfit (reason : String)
  /-- A number is out of the range of its place. -/
  | outOfBounds (reason : String)
  | conversion (cause : ConversionFault)
  deriving DecidableEq, Repr

namespace TemplateFault

/-- A code point if it is visible and in ASCII, and else its number. -/
def shownKind (lastVisible : Nat) (c : CodePoint) : Text :=
  if 32 < c.val ∧ c.val ≤ lastVisible then [c] else "\\x" ++ Text.hex 1 c.val

def report : TemplateFault → Report
  | .malformed reason => .of "ValueError" reason
  | .noPosition index =>
    .of "IndexError"
      ("Replacement index " ++ Text.ofNat index ++ " out of range for positional args tuple")
  | .noKey shown => .of "KeyError" shown
  | .noAttribute owner name =>
    .of "AttributeError" (owner ++ " has no attribute '" ++ name ++ "'")
  | .outOfRange sequence => .of "IndexError" sequence.outOfRangeMessage
  | .notAPosition sequence => .of "TypeError" sequence.notAPositionMessage
  | .notSubscriptable typeName =>
    .of "TypeError" ("'" ++ Text.ofString typeName ++ "' object is not subscriptable")
  | .unknownConversion c =>
    .of "ValueError" ("Unknown conversion specifier " ++ shownKind 126 c)
  | .noLayouts typeName =>
    .of "TypeError"
      ("unsupported format string passed to " ++ Text.ofString typeName ++ ".__format__")
  | .invalidLayout layout typeName =>
    .of "ValueError"
      ("Invalid format specifier '" ++ layout ++ "' for object of type '"
        ++ Text.ofString typeName ++ "'")
  | .unknownKind kind typeName =>
    .of "ValueError"
      ("Unknown format code '" ++ shownKind 127 kind ++ "' for object of type '"
        ++ Text.ofString typeName ++ "'")
  | .notGrouped separator kind =>
    .of "ValueError"
      ("Cannot specify '" ++ [separator] ++ "' with '" ++ shownKind 127 kind ++ "'.")
  | .notAllowed item place =>
    .of "ValueError" (Text.ofString item.message ++ " not allowed " ++ Text.ofString place)
  | .tooFewArguments => .of "TypeError" "not enough arguments for format string"
  | .tooManyArguments => .of "TypeError" "not all arguments converted during string formatting"
  | .notANumber letter wanted typeName =>
    .of "TypeError"
      ("%" ++ [letter] ++ " format: " ++ Text.ofString wanted ++ " is required, not "
        ++ Text.ofString typeName)
  | .notReal typeName => .of "TypeError" ("must be real number, not " ++ Text.ofString typeName)
  | .unknownLetter letter index =>
    let shown : Text := if 31 ≤ letter.val ∧ letter.val ≤ 126 then [letter] else "?"
    .of "ValueError"
      ("unsupported format character '" ++ shown ++ "' (0x" ++ Text.hex 1 letter.val
        ++ ") at index " ++ Text.ofNat index)
  | .unfit reason => .of "TypeError" reason
  | .outOfBounds reason => .of "OverflowError" reason
  | .conversion cause => cause.report

end TemplateFault

end Tenancy
