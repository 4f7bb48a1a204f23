import Tenancy.Double.Decimal
import Tenancy.Json.Basic

/-!
# Writing JSON

One writer serves three styles. Stored documents are compact and in ASCII, with everything else
escaped, so that a text pattern can find a member in them. Documents that are sent or printed keep
their characters and have another layout of numbers; printed ones are indented.
-/
namespace Tenancy.Json

/-- How a document is written. -/
structure Style where
  /-- Whether only the characters from the blank to the tilde stand for themselves. -/
  ascii : Bool
  /-- How numbers with a fraction are laid out. -/
  layout : Double.Layout
  /-- The depth of one level of indentation; without it no blank is written. -/
  indent : Option Nat

/-- The style of stored documents. -/
def Style.stored : Style := ⟨true, .stored, none⟩

/-- The style of documents that are sent, or printed with an indentation. -/
def Style.document (indent : Option Nat) : Style := ⟨false, .document, indent⟩

def Style.problem : Style := ⟨false, .stored, none⟩

def unitEscape (n : Nat) : Text := "\\u" ++ Text.hex 4 n

def Style.character (style : Style) (c : CodePoint) : Text :=
  if c = .quote ∨ c = .backslash then [.backslash, c]
  else if c = 0x0a then "\\n"
  else if c = 0x0d then "\\r"
  else if c = 0x09 then "\\t"
  else if c = 0x0c then "\\f"
  else if c = 0x08 then "\\b"
  else if c.val < 0x20 then unitEscape c.val
  else if !style.ascii || c.val < 0x7f then [c]
  else if c.val < 0x10000 then unitEscape c.val
  else
    let (high, low) := c.splitSurrogates
    unitEscape high.val ++ unitEscape low.val

def Style.string (style : Style) (t : Text) : Text :=
  .quote :: t.flatMap style.character ++ [.quote]

def Style.lineBreak (style : Style) (depth : Nat) : Text :=
  match style.indent with
  | none => []
  | some width => .newline :: List.replicate (width * depth) .space

def Style.colon (style : Style) : Text :=
  match style.indent with
  | none => ":"
  | some _ => ": "

mutual

/-- The text of a document at a depth. -/
def render (style : Style) (depth : Nat) : Json → Text
  | .null => "null"
  | .bool true => "true"
  | .bool false => "false"
  | .int n => Text.ofInt n
  | .number x => x.toText style.layout
  | .string t => style.string t
  | .array [] => "[]"
  | .array items => "[" ++ renderItems style (depth + 1) items ++ style.lineBreak depth ++ "]"
  | .object [] => "\x7b\x7d"
  | .object members =>
    "\x7b" ++ renderMembers style (depth + 1) members ++ style.lineBreak depth ++ "\x7d"

/-- Elements with commas between them, each on a line of its own. -/
def renderItems (style : Style) (depth : Nat) : List Json → Text
  | [] => []
  | [item] => style.lineBreak depth ++ render style depth item
  | item :: next :: rest =>
    style.lineBreak depth ++ render style depth item ++ ","
      ++ renderItems style depth (next :: rest)

/-- Members with commas between them, each on a line of its own. -/
def renderMembers (style : Style) (depth : Nat) : List (Text × Json) → Text
  | [] => []
  | [(name, value)] =>
    style.lineBreak depth ++ style.string name ++ style.colon ++ render style depth value
  | (name, value) :: next :: rest =>
    style.lineBreak depth ++ style.string name ++ style.colon ++ render style depth value ++ ","
      ++ renderMembers style depth (next :: rest)

end

/-- The text of a document in a style. -/
def write (style : Style) (document : Json) : Text := render style 0 document

end Tenancy.Json
