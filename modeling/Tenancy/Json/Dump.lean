import Tenancy.Json.OfValue
import Tenancy.Report
import Tenancy.Text.Utf8

/-!
# Values as replies

A reply shows more values than the store keeps: sets are arrays too, octets are the text they
encode, and a number that is not finite is shown as nothing. A key becomes a text, and one that is a
tuple joins those of its parts. What has no octets in UTF-8 cannot be sent, and neither can a value
that is nested too deep. The first part that cannot be shown decides the fault.
-/
namespace Tenancy

/-- Why a value cannot be sent or printed. -/
inductive DumpFault where
  | surrogates (fault : EncodeFault)
  | octets (fault : DecodeFault)
  | unknownType (typeName : String)
  | keyOctets (fault : DecodeFault)
  | unknownKeyType (typeName : String)
  | circular
  /-- Too many values stand inside one another. -/
  | tooDeep
  /-- An indentation of less than nothing. -/
  | negativeIndent
  deriving DecidableEq, Repr

def unknownTypeMessage (typeName : String) : Text :=
  "Unable to serialize unknown type: <class '" ++ Text.ofString typeName ++ "'>"

def DumpFault.message : DumpFault → Text
  | .surrogates fault => "Error serializing to JSON: UnicodeEncodeError: " ++ fault.message
  | .octets fault =>
    match fault.flaw with
    | .unexpectedEnd =>
      "Error serializing to JSON: incomplete utf-8 byte sequence from index "
        ++ Text.ofNat fault.position
    | _ =>
      "Error serializing to JSON: invalid utf-8 sequence of " ++ Text.ofNat fault.offending.length
        ++ " bytes from index " ++ Text.ofNat fault.position
  | .unknownType typeName => unknownTypeMessage typeName
  | .keyOctets fault =>
    "Error serializing to JSON: UnicodeDecodeError: " ++ fault.subject ++ ": invalid utf-8"
  | .unknownKeyType typeName =>
    "Error serializing to JSON: PydanticSerializationError: " ++ unknownTypeMessage typeName
  | .circular => "Error serializing to JSON: ValueError: Circular reference detected (id repeated)"
  | .tooDeep =>
    "Error serializing to JSON: ValueError: Circular reference detected (depth exceeded)"
  | .negativeIndent => "can't convert negative int to unsigned"

def DumpFault.report (fault : DumpFault) : Report :=
  .of (if fault = .negativeIndent then "OverflowError" else "PydanticSerializationError")
    fault.message

namespace Json

/-- A text that has octets. -/
def dumpText (t : Text) : Except DumpFault Text :=
  match t.encodeFault? with
  | some fault => .error (.surrogates fault)
  | none => .ok t

/-- The text that octets encode. -/
def dumpOctets (data : Octets) : Except DumpFault Text :=
  match Utf8.decode data with
  | .ok t => .ok t
  | .error fault => .error (.octets fault)

mutual

/-- The name of a member whose key is a value. -/
def dumpKey : Value → Except DumpFault Text
  | .null => .ok "None"
  | .bool true => .ok "true"
  | .bool false => .ok "false"
  | .int n => .ok (Text.ofInt n)
  | .float x => .ok (if x.isFinite then x.toText .display else "None")
  | .text t => dumpText t
  | .octets data =>
    match Utf8.decode data with
    | .ok t => .ok t
    | .error fault => .error (.keyOctets fault)
  | .tuple parts => (dumpKeys parts).map (Text.join ",")
  | key => .error (.unknownKeyType key.typeName)

/-- The names of the parts of a key, in order. -/
def dumpKeys : List Value → Except DumpFault (List Text)
  | [] => .ok []
  | part :: rest => do
    let name ← dumpKey part
    let names ← dumpKeys rest
    .ok (name :: names)

end

/-- How many values may stand inside one another in a field of a reply. A value without parts counts
as one of them; the key of an entry does not. -/
def nestingLimit : Nat := 255

mutual

/-- The document that shows a value in which at most `room` values stand inside one another. -/
def dump : (room : Nat) → Value → Except DumpFault Json
  | 0, _ => .error .tooDeep
  | _ + 1, .null => .ok .null
  | _ + 1, .bool b => .ok (.bool b)
  | _ + 1, .int n => .ok (.int n)
  | _ + 1, .float x => .ok (if x.isFinite then .number x else .null)
  | _ + 1, .text t => (dumpText t).map .string
  | _ + 1, .octets data => (dumpOctets data).map .string
  | room + 1, .list items => (dumpItems room items).map .array
  | room + 1, .tuple items => (dumpItems room items).map .array
  | room + 1, .set items => (dumpItems room items).map .array
  | room + 1, .dict entries => (dumpEntries room entries).map .object
  | _ + 1, .object => .error (.unknownType Value.object.typeName)
  -- A cycle is noticed on coming back to where it starts, before the room is looked at
  | room + 1, .cycle => .error (if room = 0 then .tooDeep else .circular)
  | room + 1, .cycleEntry => .error (if room = 0 then .tooDeep else .circular)

/-- The documents that show elements, in order. -/
def dumpItems (room : Nat) : List Value → Except DumpFault (List Json)
  | [] => .ok []
  | item :: rest => do
    let document ← dump room item
    let documents ← dumpItems room rest
    .ok (document :: documents)

/-- The members that show entries, in order. -/
def dumpEntries (room : Nat) : List (Value × Value) → Except DumpFault (List (Text × Json))
  | [] => .ok []
  | (key, value) :: rest => do
    let name ← dumpKey key
    let document ← dump room value
    let members ← dumpEntries room rest
    .ok ((name, document) :: members)

end

/-- The text of a reply. -/
def dumpWith (indent : Option Int) (value : Value) : Except DumpFault Text :=
  -- A reply is a record, around whose fields there is one value more
  if indent.any (· < 0) then .error .negativeIndent
  else (dump (nestingLimit + 1) value).map (write (.document (indent.map Int.toNat)))

end Json

end Tenancy
