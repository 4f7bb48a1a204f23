import Tenancy.Double.Basic
import Tenancy.Numeral
import Tenancy.Text.Utf8
import Tenancy.Value

/-!
# Field checks

A record is built from fields whose values nothing has checked. A text field takes a text, or the
octets of one. An integer field takes an integer, a truth value, a number without a fraction, or
the numeral of an integer. Every field that does not fit is a problem of its own, and the problems
are listed in the order in which the record declares its fields.
-/
namespace Tenancy

/-- Why a field does not fit. -/
inductive Misfit where
  | missing
  | notText
  | notUnicode
  | notInteger
  | notNumeral
  | numeralTooLong
  | fractional
  | notFinite
  | notOneOf (choices : List String)
  | notPermitted
  | notObject
  | refused (reason : Text)
  deriving DecidableEq, Repr

/-- The choices of a field, the last one behind an `or`. -/
def listChoices : List String → Text
  | [] => []
  | [choice] => "'" ++ Text.ofString choice ++ "'"
  | [choice, last] => "'" ++ Text.ofString choice ++ "' or '" ++ Text.ofString last ++ "'"
  | choice :: rest => "'" ++ Text.ofString choice ++ "', " ++ listChoices rest

def Misfit.message : Misfit → Text
  | .missing => "Field required"
  | .notText => "Input should be a valid string"
  | .notUnicode => "Input should be a valid string, unable to parse raw data as a unicode string"
  | .notInteger => "Input should be a valid integer"
  | .notNumeral => "Input should be a valid integer, unable to parse string as an integer"
  | .numeralTooLong => "Unable to parse input string as an integer, exceeded maximum size"
  | .fractional => "Input should be a valid integer, got a number with a fractional part"
  | .notFinite => "Input should be a finite number"
  | .notOneOf choices => "Input should be " ++ listChoices choices
  | .notPermitted => "Extra inputs are not permitted"
  | .notObject => "Input should be a valid dictionary or object to extract fields from"
  | .refused reason => "Value error, " ++ reason

def Misfit.code : Misfit → String
  | .missing => "missing"
  | .notText => "string_type"
  | .notUnicode => "string_unicode"
  | .notInteger => "int_type"
  | .notNumeral => "int_parsing"
  | .numeralTooLong => "int_parsing_size"
  | .fractional => "int_from_float"
  | .notFinite => "finite_number"
  | .notOneOf _ => "literal_error"
  | .notPermitted => "extra_forbidden"
  | .notObject => "model_attributes_type"
  | .refused _ => "value_error"

/-- A misfit and where it is; a problem of the record as a whole has no place. -/
structure FieldProblem where
  location : List Text
  misfit : Misfit
  deriving DecidableEq, Repr

/-- The place, the words and the code. -/
def FieldProblem.message (problem : FieldProblem) : Text :=
  Text.join "." problem.location ++ ": " ++ problem.misfit.message ++ " ["
    ++ Text.ofString problem.misfit.code ++ "]"

/-- One problem a line. -/
def FieldProblem.messages (problems : List FieldProblem) : Text :=
  Text.join [.newline] (problems.map FieldProblem.message)

namespace Value

/-- The text of a text field. -/
def asText : Value → Except Misfit Text
  | .text t => .ok t
  | .octets data =>
    match Utf8.decode data with
    | .ok t => .ok t
    | .error _ => .error .notUnicode
  | _ => .error .notText

/-- The integer that a numeral in an integer field denotes. -/
def integerOfNumeral (t : Text) : Except Misfit Int :=
  match Numeral.ofField t with
  | .ok n => .ok n
  | .error .malformed => .error .notNumeral
  | .error (.tooLong _) => .error .numeralTooLong

/-- The integer that a number in an integer field equals; it has to lie strictly between the
bounds of a word of 64 bits. -/
def integerOfDouble (x : Double) : Except Misfit Int :=
  if !x.isFinite then .error .notFinite
  else match x.toInt? with
    | none => .error .fractional
    | some n => if -2 ^ 63 < n ∧ n < 2 ^ 63 then .ok n else .error .numeralTooLong

def asInt : Value → Except Misfit Int
  | .int n => .ok n
  | .bool b => .ok (if b then 1 else 0)
  | .float x => integerOfDouble x
  | .text t => if t.any (·.isSurrogate) then .error .notUnicode else integerOfNumeral t
  | .octets data =>
    match Utf8.decode data with
    | .ok t => integerOfNumeral t
    | .error _ => .error .notNumeral
  | _ => .error .notInteger

end Value

/-- The fields that a record is built from; of two with one name the last counts. -/
abbrev Fields := List (Text × Value)

namespace Fields

def get? (name : String) (fields : Fields) : Option Value :=
  (fields.reverse.find? (·.1 == Text.ofString name)).map (·.2)

/-- A checked field: what it holds, or the problem with it. -/
abbrev Checked (α : Type) := Except FieldProblem α

def require (name : String) (check : Value → Except Misfit α) (fields : Fields) : Checked α :=
  match fields.get? name with
  | none => .error ⟨[Text.ofString name], .missing⟩
  | some value =>
    match check value with
    | .ok a => .ok a
    | .error misfit => .error ⟨[Text.ofString name], misfit⟩

def optional (name : String) (check : Value → Except Misfit α) (absent : α) (fields : Fields) :
    Checked α :=
  match fields.get? name with
  | none => .ok absent
  | some _ => fields.require name check

/-- The problem of a field, if there is one. -/
def problem? {α : Type} : Checked α → List FieldProblem
  | .ok _ => []
  | .error problem => [problem]

end Fields

end Tenancy
