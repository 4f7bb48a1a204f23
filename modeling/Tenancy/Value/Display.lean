import Tenancy.Double.Decimal
import Tenancy.Text.Literal
import Tenancy.Value

/-!
# Display of values

The form in which messages show a value. A text inside a collection is quoted; a text that is the
message itself is shown as it is. Integers are written out at any length.
-/
namespace Tenancy.Value

mutual

/-- The display form of a value, with texts quoted. -/
def display : Value → Text
  | .null => "None"
  | .bool true => "True"
  | .bool false => "False"
  | .int n => Text.ofInt n
  | .float x => x.toText .display
  | .text t => t.quoted
  | .octets data => Octets.quoted data
  | .list items => "[" ++ displayItems items ++ "]"
  | .tuple [item] => "(" ++ display item ++ ",)"
  | .tuple items => "(" ++ displayItems items ++ ")"
  | .set [] => "set()"
  | .set items => "\x7b" ++ displayItems items ++ "\x7d"
  | .dict entries => "\x7b" ++ displayEntries entries ++ "\x7d"
  | .object => "<object object>"
  | .cycle => "[\x7b'again': [...]\x7d]"
  | .cycleEntry => "\x7b'again': [\x7b...\x7d]\x7d"

def displayItems : List Value → Text
  | [] => []
  | [item] => display item
  | item :: next :: rest => display item ++ ", " ++ displayItems (next :: rest)

def displayEntries : List (Value × Value) → Text
  | [] => []
  | [(key, value)] => display key ++ ": " ++ display value
  | (key, value) :: next :: rest =>
    display key ++ ": " ++ display value ++ ", " ++ displayEntries (next :: rest)

end

def toText : Value → Text
  | .text t => t
  | value => value.display

end Tenancy.Value
