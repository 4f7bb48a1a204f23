import Tenancy.Log.Layout

/-!
# Message templates

A message may be a template that arguments fill. A place stands between braces: it names an
argument, by position or by its turn, or a part of one; it may ask for a conversion behind an
exclamation mark and for a layout behind a colon, and the layout is a template itself. A doubled
brace stands for itself. The first fault in reading order counts.
-/
namespace Tenancy.Template

/-- The opening brace. -/
def opening : CodePoint := 0x7b

/-- The closing brace. -/
def closing : CodePoint := 0x7d

/-- How positions are given: not at all so far, by the order of the places, or by numbers. -/
inductive Numbering where
  | open
  | counted (next : Nat)
  | numbered

/-- A place in a template: what it names, its conversion and its layout. -/
structure Place where
  name : Text
  conversion : Option CodePoint
  layout : Text

/-! ### Reading places -/

/-- The name in a place, the code point that ends it, and the rest. -/
def takeName (bracketed : Bool) : Text → Except TemplateFault (Text × CodePoint × Text)
  -- What stands in brackets is part of the name
  | [] => .error (.malformed "expected '\x7d' before end of string")
  | c :: rest =>
    if !bracketed && c == opening then .error (.malformed "unexpected '\x7b' in field name")
    else if !bracketed && (c == closing || c.isOneOf ":!") then .ok ([], c, rest)
    else
      let bracketed := if bracketed then c != CodePoint.ofChar ']' else c == CodePoint.ofChar '['
      (takeName bracketed rest).map fun (name, stop, rest) => (c :: name, stop, rest)

/-- What stands before the brace that closes a place, with the braces inside in balance. -/
def takeLayout (depth : Nat) : Text → Except TemplateFault (Text × Text)
  | [] => .error (.malformed "unmatched '\x7b' in format spec")
  | c :: rest =>
    if c = closing ∧ depth = 0 then .ok ([], rest)
    else
      let depth := if c = opening then depth + 1 else if c = closing then depth - 1 else depth
      (takeLayout depth rest).map fun (layout, rest) => (c :: layout, rest)

/-- The conversion behind an exclamation mark and the layout behind it. -/
def takeConversion (name : Text) : Text → Except TemplateFault (Place × Text)
  -- U+0000 asks for none
  | [] => .error (.malformed "end of string while looking for conversion specifier")
  | c :: rest =>
    let conversion := if c.val = 0 then none else some c
    match rest with
    | [] => .error (.malformed "unmatched '\x7b' in format spec")
    | d :: behind =>
      if d = closing then .ok (⟨name, conversion, []⟩, behind)
      else if d = CodePoint.ofChar ':' then
        (takeLayout 0 behind).map fun (layout, rest) => (⟨name, conversion, layout⟩, rest)
      else .error (.malformed "expected ':' after conversion specifier")

/-- The place behind an opening brace, and the rest. -/
def takePlace (t : Text) : Except TemplateFault (Place × Text) := do
  let (name, stop, rest) ← takeName false t
  if stop = closing then return (⟨name, none, []⟩, rest)
  else if stop = CodePoint.ofChar ':' then
    let (layout, rest) ← takeLayout 0 rest
    return (⟨name, none, layout⟩, rest)
  else takeConversion name rest

/-! ### Finding what a place names -/

/-- The number that a name is as a whole, if it is one. -/
def wholeNumber? (name : Text) : Except TemplateFault (Option Nat) := do
  match ← takeNumber name with
  | (number, []) => return number
  | _ => return none

/-- The position that a name stands for, and how positions are given from there on. -/
def position (numbering : Numbering) (name : Text) : Except TemplateFault (Nat × Numbering) := do
  match ← wholeNumber? name with
  | some index =>
    match numbering with
    | .counted _ =>
      throw (.malformed
        "cannot switch from automatic field numbering to manual field specification")
    | _ => return (index, .numbered)
  | none =>
    if !name.isEmpty then throw (.noKey name.quoted)
    match numbering with
    | .open => return (0, .counted 1)
    | .counted next => return (next, .counted (next + 1))
    | .numbered =>
      throw (.malformed
        "cannot switch from manual field specification to automatic field numbering")

/-- What a place can show: a value, or a type of values. -/
inductive Referent where
  | ofValue (value : Value)
  | ofType (name : String)

namespace Referent

def toText : Referent → Text
  | .ofValue value => value.toText
  | .ofType name => "<class '" ++ Text.ofString name ++ "'>"

/-- The display form of what a place shows. -/
def display : Referent → Text
  | .ofValue value => value.display
  | referent => referent.toText

/-- What a place shows, in a layout. -/
def layOut (referent : Referent) (layout : Text) : Except TemplateFault Text :=
  match referent with
  | .ofValue value => value.layOut layout
  | type => if layout.isEmpty then .ok type.toText else .error (.noLayouts "type")

end Referent

/-- The attribute of a number. -/
def numberAttribute? (value : Value) (name : Text) : Option Value :=
  match value, value.integer? with
  | .float x, _ =>
    if name = "real" then some (.float x)
    else if name = "imag" then some (.float (.zero false))
    else none
  | _, some n =>
    if name = "real" ∨ name = "numerator" then some (.int n)
    else if name = "imag" then some (.int 0)
    else if name = "denominator" then some (.int 1)
    else none
  | _, none => none

/-- The attribute of what a place names so far. -/
def part (referent : Referent) (name : Text) : Except TemplateFault Referent :=
  -- Every value has a type, and a type has a name
  match referent with
  | .ofValue value =>
    if name = "__class__" then .ok (.ofType value.typeName)
    else match numberAttribute? value name with
      | some found => .ok (.ofValue found)
      | none => .error (.noAttribute ("'" ++ Text.ofString value.typeName ++ "' object") name)
  | .ofType typeName =>
    if name = "__class__" then .ok (.ofType "type")
    else if name = "__name__" ∨ name = "__qualname__" then
      .ok (.ofValue (.text (Text.ofString typeName)))
    else if name = "__module__" then .ok (.ofValue (.text "builtins"))
    else .error (.noAttribute ("type object '" ++ Text.ofString typeName ++ "'") name)

/-- The elements of a value that is a sequence. -/
def sequence? (value : Value) : Option (Sequence × List Value) :=
  let elements := value.elements?.getD []
  match value with
  | .text _ => some (.text, elements)
  | .octets _ => some (.octets, elements)
  | .list _ => some (.list, elements)
  | .cycle => some (.list, elements)
  | .tuple _ => some (.tuple, elements)
  | _ => none

/-- The entries of a value that is a dictionary. -/
def entries? (value : Value) : Option (List (Value × Value)) :=
  match value with
  | .dict entries => some entries
  | .cycleEntry => some [(.text "again", .cycle)]
  | _ => none

def entry (key : Value) (entries : List (Value × Value)) : Except TemplateFault Value :=
  match entries.find? fun (other, _) => Value.sameKey other key with
  | some (_, value) => .ok value
  | none => .error (.noKey key.display)

/-- The element of what a place names so far, by a name that may be a position. -/
def element (referent : Referent) (name : Text) (index : Option Nat) :
    Except TemplateFault Referent :=
  match referent with
  | .ofType typeName =>
    .error (.unfit ("type '" ++ typeName ++ "' is not subscriptable"))
  | .ofValue value =>
    match sequence? value, index, entries? value with
    | some (sequence, elements), some index, _ =>
      match elements[index]? with
      | some found => .ok (.ofValue found)
      | none => .error (.outOfRange sequence)
    | some (sequence, _), none, _ => .error (.notAPosition sequence)
    | none, some index, some entries => (entry (.int index) entries).map .ofValue
    | none, none, some entries => (entry (.text name) entries).map .ofValue
    | none, _, none => .error (.notSubscriptable value.typeName)

/-- What a place names, from an argument on: its path is a chain of attributes behind points and
elements in brackets. At most `fuel` of them are followed. -/
def follow : (fuel : Nat) → Referent → (path : Text) → Except TemplateFault Referent
  | 0, referent, _ => .ok referent
  | _ + 1, referent, [] => .ok referent
  | fuel + 1, referent, c :: rest =>
    let empty := TemplateFault.malformed "Empty attribute in format string"
    if c = CodePoint.ofChar '.' then do
      let (name, behind) := Text.cutBefore (CodePoint.isOneOf ".[") rest
      if name.isEmpty then throw empty
      follow fuel (← part referent name) behind
    else if c = CodePoint.ofChar '[' then
      match Text.cut? (CodePoint.ofChar ']') rest with
      | none => .error (.malformed "Missing ']' in format string")
      | some (name, behind) => do
        let index ← wholeNumber? name
        if name.isEmpty then throw empty
        follow fuel (← element referent name index) behind
    else
      .error (.malformed "Only '.' or '[' may follow ']' in format field specifier")

/-- What a place names, and how positions are given from there on. -/
def find (arguments : List Value) (numbering : Numbering) (name : Text) :
    Except TemplateFault (Referent × Numbering) := do
  let (first, path) := Text.cutBefore (CodePoint.isOneOf ".[") name
  let (index, numbering) ← position numbering first
  match arguments[index]? with
  | none => throw (.noPosition index)
  | some value => return (← follow path.length (.ofValue value) path, numbering)

/-! ### Filling -/

/-- What a place shows behind its conversion. -/
def convert (referent : Referent) : Option CodePoint → Except TemplateFault Referent
  | none => .ok referent
  | some c =>
    if c = CodePoint.ofChar 's' then .ok (.ofValue (.text referent.toText))
    else if c = CodePoint.ofChar 'r' then .ok (.ofValue (.text referent.display))
    else if c = CodePoint.ofChar 'a' then .ok (.ofValue (.text referent.display.inAscii))
    else .error (.unknownConversion c)

/-- A template filled, and how positions are given behind it. -/
abbrev Filling := Numbering → Text → Except TemplateFault (Text × Numbering)

/-- What a place shows, and how positions are given from there on. A layout with places of its own
is filled by `nested`. -/
def fillPlace (nested : Filling) (arguments : List Value) (numbering : Numbering) (place : Place) :
    Except TemplateFault (Text × Numbering) := do
  let (referent, numbering) ← find arguments numbering place.name
  let shown ← convert referent place.conversion
  let (layout, numbering) ←
    if place.layout.contains opening then nested numbering place.layout
    else pure (place.layout, numbering)
  return (← shown.layOut layout, numbering)

/-- Fills a template with at most `fuel` places and code points. -/
def fillFrom (nested : Filling) (arguments : List Value) : (fuel : Nat) → Filling
  | 0, numbering, t => .ok (t, numbering)
  | _ + 1, numbering, [] => .ok ([], numbering)
  | fuel + 1, numbering, c :: rest => do
    if c = opening ∨ c = closing then
      if rest.head? = some c then
        let (t, numbering) ← fillFrom nested arguments fuel numbering (rest.drop 1)
        return (c :: t, numbering)
      else if rest.isEmpty ∨ c = closing then
        throw (.malformed
          (if c = closing then "Single '\x7d' encountered in format string"
            else "Single '\x7b' encountered in format string"))
      else
        let (place, rest) ← takePlace rest
        let (shown, numbering) ← fillPlace nested arguments numbering place
        let (t, numbering) ← fillFrom nested arguments fuel numbering rest
        return (shown ++ t, numbering)
    else
      let (t, numbering) ← fillFrom nested arguments fuel numbering rest
      return (c :: t, numbering)

/-- Fills a template, down to a depth of layouts in layouts. -/
def fillTo (arguments : List Value) : (depth : Nat) → Filling
  | 0, _, _ => .error (.malformed "Max string recursion exceeded")
  | depth + 1, numbering, t => fillFrom (fillTo arguments depth) arguments t.length numbering t

/-- Fills the places of a template. -/
def fill (template : Text) (arguments : List Value) : Except TemplateFault Text :=
  (fillTo arguments 2 .open template).map (·.1)

end Tenancy.Template
