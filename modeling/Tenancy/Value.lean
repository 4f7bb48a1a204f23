import Tenancy.Double.Basic
import Tenancy.Text.Encoding

/-!
# Dynamic values

Callers hand over records and settings whose shape nothing has checked yet, and result rows come
back the same way. A value is whatever may stand in such a place; the checks that follow turn it
into typed data or refuse it.
-/
namespace Tenancy

/-- A value whose shape is not known in advance. -/
inductive Value where
  | null
  | bool (b : Bool)
  | int (n : Int)
  | float (x : Double)
  | text (t : Text)
  | octets (data : Octets)
  | list (items : List Value)
  | tuple (items : List Value)
  | set (items : List Value)
  /-- Entries in the order in which their keys were first given. -/
  | dict (entries : List (Value × Value))
  /-- A value of a foreign type, which nothing can look into. -/
  | object
  /-- A list whose only element is a dictionary that holds the list again. In a value that is to be
  encoded it also stands for the place in any cyclic value where one that is still open is met
  again: the two are refused alike. -/
  | cycle
  /-- The dictionary in such a list. -/
  | cycleEntry
  deriving Inhabited

namespace Value

def typeName : Value → String
  | .null => "NoneType"
  | .bool _ => "bool"
  | .int _ => "int"
  | .float _ => "float"
  | .text _ => "str"
  | .octets _ => "bytes"
  | .list _ => "list"
  | .tuple _ => "tuple"
  | .set _ => "set"
  | .dict _ => "dict"
  | .object => "object"
  | .cycle => "list"
  | .cycleEntry => "dict"

/-- Whether a value counts as present: zero, nothing and everything empty do not. -/
def isPresent : Value → Bool
  | .null => false
  | .bool b => b
  | .int n => n != 0
  | .float x => !x.isZero
  | .text t => !t.isEmpty
  | .octets data => !data.isEmpty
  | .list items => !items.isEmpty
  | .tuple items => !items.isEmpty
  | .set items => !items.isEmpty
  | .dict entries => !entries.isEmpty
  | .object => true
  | .cycle => true
  | .cycleEntry => true

/-- The number of a Boolean or of a number, if it is one. -/
def number? : Value → Option (Int ⊕ Double)
  | .bool b => some (.inl (if b then 1 else 0))
  | .int n => some (.inl n)
  | .float x => some (match x.toInt? with
    | some n => .inl n
    | none => .inr x)
  | _ => none

/-- Whether two keys name the same entry. -/
def sameKey (a b : Value) : Bool :=
  -- Truth values and numbers are equal by value
  match a.number?, b.number? with
  | some (.inl n), some (.inl m) => n == m
  | some (.inr x), some (.inr y) => x.eq y
  | some _, _ => false
  | _, some _ => false
  | none, none =>
    match a, b with
    | .null, .null => true
    | .text s, .text t => s == t
    | .octets s, .octets t => s == t
    | .tuple [], .tuple [] => true
    | .tuple (x :: xs), .tuple (y :: ys) => sameKey x y && sameKeys xs ys
    | _, _ => false
where
  /-- Place by place. -/
  sameKeys : List Value → List Value → Bool
    | [], [] => true
    | x :: xs, y :: ys => sameKey x y && sameKeys xs ys
    | _, _ => false

mutual

/-- The name of the type that keeps a value from being looked up, if one does: that of a collection
which may change. -/
def unhashable? : Value → Option String
  | .list _ => some "list"
  | .set _ => some "set"
  | .dict _ => some "dict"
  | .cycle => some "list"
  | .cycleEntry => some "dict"
  | .tuple items => unhashableItem? items
  | _ => none

/-- The name of the first such type among the members of a tuple. -/
def unhashableItem? : List Value → Option String
  | [] => none
  | item :: rest => (unhashable? item).or (unhashableItem? rest)

end

/-- Sets the entry of a key: an entry that is there keeps its place and its key. -/
def put (key value : Value) : List (Value × Value) → List (Value × Value)
  | [] => [(key, value)]
  | (k, v) :: rest => if sameKey k key then (k, value) :: rest else (k, v) :: put key value rest

/-- The dictionary that assigning the pairs one after the other builds. -/
def ofPairs (pairs : List (Value × Value)) : Value :=
  .dict (pairs.foldl (fun entries (key, value) => put key value entries) [])

/-- The elements of a value that can be iterated: the characters of a text, the numbers of octets,
the members of a collection, the keys of a dictionary. -/
def elements? : Value → Option (List Value)
  | .text t => some (t.map fun c => .text [c])
  | .octets data => some (data.map fun octet => .int octet.toNat)
  | .list items => some items
  | .tuple items => some items
  | .set items => some items
  | .dict entries => some (entries.map (·.1))
  | .cycle => some [.cycleEntry]
  | .cycleEntry => some [.text "again"]
  | _ => none

end Value

end Tenancy
