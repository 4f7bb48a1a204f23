import Tenancy.Double.Basic

/-!
# JSON documents

A document keeps the order of its members, tells integers from numbers with a fraction, and may
hold numbers that are not finite and texts with lone surrogates, which the reader accepts too.
-/
namespace Tenancy

/-- A JSON document. -/
inductive Json where
  | null
  | bool (b : Bool)
  | int (n : Int)
  | number (x : Double)
  | string (t : Text)
  | array (items : List Json)
  | object (members : List (Text × Json))
  deriving Inhabited

namespace Json

/-- Sets the member of a name: a member that is there keeps its place. -/
def put (name : Text) (value : Json) : List (Text × Json) → List (Text × Json)
  | [] => [(name, value)]
  | (n, v) :: rest => if n = name then (n, value) :: rest else (n, v) :: put name value rest

/-- Members without repetition: a name keeps its first place and has its last value. -/
def collapse (members : List (Text × Json)) : List (Text × Json) :=
  members.foldl (fun collapsed (name, value) => put name value collapsed) []

def get? (name : Text) : Json → Option Json
  | .object members => (members.find? (·.1 == name)).map (·.2)
  | _ => none

def ofString (s : String) : Json := .string (Text.ofString s)

def ofMembers (members : List (String × Json)) : Json :=
  .object (members.map fun (name, value) => (Text.ofString name, value))

end Json

end Tenancy
