import Tenancy.Url.Basic
import Tenancy.Value.Convert

/-!
# Options of an address

An option is given once or several times. What is given several times counts as one collection,
which is no number and holds as a truth value.
-/
namespace Tenancy

/-- The value of an option of an address. -/
inductive UrlOption where
  | single (value : Text)
  | several (values : List Text)
  deriving DecidableEq, Repr

namespace UrlOption

def toText : UrlOption → Text
  | .single value => value
  | .several values => (Value.tuple (values.map .text)).display

def toInt : UrlOption → Except ConversionFault Int
  | .single value => value.toInt
  | .several _ => .error (.wrongType "tuple")

def toDouble : UrlOption → Except ConversionFault Double
  | .single value => value.toDouble
  | .several _ => .error (.notDecimalType "tuple")

def toFlag : UrlOption → Except ConversionFault Bool
  | .single value => value.toFlag
  | .several _ => .ok true

end UrlOption

/-- What the value of an option has to denote. -/
inductive OptionKind where
  | flag
  | integer
  | decimal
  deriving DecidableEq, Repr

def OptionKind.check (value : UrlOption) : OptionKind → Except ConversionFault Unit
  | .flag => value.toFlag.map fun _ => ()
  | .integer => value.toInt.map fun _ => ()
  | .decimal => value.toDouble.map fun _ => ()

namespace Url

def option? (url : Url) (name : String) : Option UrlOption :=
  (url.options.lookup (Text.ofString name)).map fun
    | [value] => .single value
    | values => .several values

/-- Whether an option denotes true. -/
def holds (url : Url) (name : String) : Bool :=
  match (url.option? name).map UrlOption.toFlag with
  | some (.ok b) => b
  | _ => false

/-- Refuses an address with an option that is not of its kind; of several such options the first of
the list counts. -/
def checkOptions (url : Url) (kinds : List (String × OptionKind)) : Except ConversionFault Unit :=
  kinds.forM fun (name, kind) =>
    match url.option? name with
    | some value => kind.check value
    | none => .ok ()

/-- An address without some options. -/
def withoutOptions (url : Url) (names : List String) : Url :=
  { url with options := url.options.filter fun (name, _) =>
      !names.any (Text.ofString · == name) }

end Url

end Tenancy
