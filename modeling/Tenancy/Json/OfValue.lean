import Tenancy.Json.Writer
import Tenancy.Numeral
import Tenancy.Value

/-!
# Values as JSON documents

A value is a document if its parts are: collections with an order are arrays, dictionaries are
objects, and a key that is a truth value, a number or nothing becomes the text it would have as a
value. Parts are visited depth first, a key before its value and an entry before the next, and the
first part that is no document decides the fault.
-/
namespace Tenancy

/-- Why a value is no document. -/
inductive Unserializable where
  | unsupportedType (typeName : String)
  | notFinite
  | unsupportedKey (typeName : String)
  | circular
  | integerTooLong
  deriving DecidableEq, Repr

def integerTooLongMessage : String :=
  "Exceeds the limit (4300 digits) for integer string conversion; "
    ++ "use sys.set_int_max_str_digits() to increase the limit"

def Unserializable.message : Unserializable → Text
  | .unsupportedType typeName =>
    "Object of type " ++ Text.ofString typeName ++ " is not JSON serializable"
  | .notFinite => "Out of range float values are not JSON compliant"
  | .unsupportedKey typeName =>
    "keys must be str, int, float, bool or None, not " ++ Text.ofString typeName
  | .circular => "Circular reference detected"
  | .integerTooLong => integerTooLongMessage

namespace Json

/-- An integer, if it is short enough to be written. -/
def ofInt (n : Int) : Except Unserializable Json :=
  if Numeral.isTooLong n then .error .integerTooLong else .ok (.int n)

/-- A number, if it is finite or `lenient` takes all of them. -/
def ofDouble (lenient : Bool) (x : Double) : Except Unserializable Json :=
  if lenient || x.isFinite then .ok (.number x) else .error .notFinite

/-- The name of a member whose key is a value. -/
def nameOfKey (lenient : Bool) : Value → Except Unserializable Text
  | .text t => .ok t
  | .null => .ok "null"
  | .bool true => .ok "true"
  | .bool false => .ok "false"
  | .int n => (ofInt n).map fun _ => Text.ofInt n
  | .float x => (ofDouble lenient x).map fun _ => x.toText .stored
  | key => .error (.unsupportedKey key.typeName)

mutual

/-- The document that a value is. Documents of numbers that are not finite are extensions, which
`lenient` admits. -/
def ofValue (lenient : Bool) : Value → Except Unserializable Json
  | .null => .ok .null
  | .bool b => .ok (.bool b)
  | .int n => ofInt n
  | .float x => ofDouble lenient x
  | .text t => .ok (.string t)
  | .list items => (ofItems lenient items).map .array
  | .tuple items => (ofItems lenient items).map .array
  | .dict entries => (ofEntries lenient entries).map .object
  | .cycle => .error .circular
  | .cycleEntry => .error .circular
  | .octets data => .error (.unsupportedType (Value.octets data).typeName)
  | .set items => .error (.unsupportedType (Value.set items).typeName)
  | .object => .error (.unsupportedType Value.object.typeName)

/-- The documents of elements, in order. -/
def ofItems (lenient : Bool) : List Value → Except Unserializable (List Json)
  | [] => .ok []
  | item :: rest => do
    let document ← ofValue lenient item
    let documents ← ofItems lenient rest
    .ok (document :: documents)

/-- The members of entries, in order; two keys may give members of one name. -/
def ofEntries (lenient : Bool) : List (Value × Value) → Except Unserializable (List (Text × Json))
  | [] => .ok []
  | (key, value) :: rest => do
    let name ← nameOfKey lenient key
    let document ← ofValue lenient value
    let members ← ofEntries lenient rest
    .ok ((name, document) :: members)

end

mutual

def toValue : Json → Value
  | .null => .null
  | .bool b => .bool b
  | .int n => .int n
  | .number x => .float x
  | .string t => .text t
  | .array items => .list (toValues items)
  | .object members => .dict (toEntries members)

def toValues : List Json → List Value
  | [] => []
  | document :: rest => toValue document :: toValues rest

def toEntries : List (Text × Json) → List (Value × Value)
  | [] => []
  | (name, document) :: rest => (.text name, toValue document) :: toEntries rest

end

end Json

end Tenancy
