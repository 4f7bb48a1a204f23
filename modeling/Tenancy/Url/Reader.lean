import Tenancy.Text.Word
import Tenancy.Url.Basic
import Tenancy.Value.Convert

/-!
# Reading addresses

Only the driver's name and the two slashes behind it are required. Every other part is taken if it
is there, and what follows the last part that fits is ignored. A port, where there is one, has to
be a number literal.
-/
namespace Tenancy.Url

/-- Why a text is no address. -/
inductive Fault where
  | malformed
  | port (cause : ConversionFault)
  deriving DecidableEq, Repr

def Fault.message : Fault → Text
  | .malformed => "Could not parse SQLAlchemy URL from given URL string"
  | .port cause => cause.message

/-- The user, the password and the rest. -/
def takeUser (t : Text) : Option Text × Option Text × Text :=
  -- The user goes as far as the first colon or slash, if a password and an at sign follow, and
  -- otherwise as far as the last at sign before that
  let (run, behind) := Text.cutBefore (CodePoint.isOneOf ":/") t
  let withPassword : Option (Text × Text) := do
    let body ← Text.after? ":" behind
    Text.cut? (CodePoint.ofChar '@') body
  match withPassword with
  | some (password, rest) => (some run, some password, rest)
  | none =>
    match Text.cutLast? (CodePoint.ofChar '@') run with
    | some (user, host) => (some user, none, host ++ behind)
    | none => (none, none, t)

/-- A host in brackets, up to the last closing bracket before a slash or a question mark. -/
def takeBracketed? (t : Text) : Option (Text × Text) := do
  let body ← Text.after? "[" t
  let (run, behind) := Text.cutBefore (CodePoint.isOneOf "/?") body
  let (host, rest) ← Text.cutLast? (CodePoint.ofChar ']') run
  if host.isEmpty then none else some (host, rest ++ behind)

def takeHost (t : Text) : Option Text × Text :=
  match takeBracketed? t with
  | some (host, rest) => (some host, rest)
  | none =>
    match Text.cutBefore (CodePoint.isOneOf "/:?") t with
    | ([], rest) => (none, rest)
    | (host, rest) => (some host, rest)

/-- What stands behind a mark and before the first code point of a class, and the rest. -/
def takeBehind (mark : String) (stop : CodePoint → Bool) (t : Text) : Option Text × Text :=
  match Text.after? (Text.ofString mark) t with
  | some body =>
    let (run, rest) := Text.cutBefore stop body
    (some run, rest)
  | none => (none, t)

def addOption (name value : Text) : List (Text × List Text) → List (Text × List Text)
  | [] => [(name, [value])]
  | (other, values) :: rest =>
    if other = name then (other, values ++ [value]) :: rest
    else (other, values) :: addOption name value rest

/-- The options of a query. -/
def readOptions (query : Text) : List (Text × List Text) :=
  -- What has no value is left out
  (Text.splitOn (CodePoint.ofChar '&') query).foldl
    (fun options assignment =>
      match Text.cut? (CodePoint.ofChar '=') assignment with
      | none => options
      | some (_, []) => options
      | some (name, value) =>
        addOption (Percent.decodeQuery name) (Percent.decodeQuery value) options)
    []

/-- The port of an address. A colon with nothing behind it is refused: an empty text is no number. -/
def readPort : Option Text → Except Fault (Option Int)
  | none => .ok none
  | some digits =>
    match digits.toInt with
    | .ok port => .ok (some port)
    | .error cause => .error (.port cause)

/-- Whether a code point may stand in the name of a driver. -/
def isDriver (c : CodePoint) : Bool := c.isWord || c == CodePoint.ofChar '+'

/-- The driver's name and what stands behind the two slashes. -/
def takeDriver (t : Text) : Except Fault (Text × Text) :=
  match Text.cutBefore (fun c => !isDriver c) t with
  | ([], _) => .error .malformed
  | (driver, behind) =>
    match Text.after? "://" behind with
    | some rest => .ok (driver, rest)
    | none => .error .malformed

/-- The address that a text denotes. -/
def read (t : Text) : Except Fault Url := do
  let (driver, rest) ← takeDriver t
  let (user, password, rest) := takeUser rest
  let (host, rest) := takeHost rest
  let (digits, rest) := takeBehind ":" (CodePoint.isOneOf "/?") rest
  let (database, rest) := takeBehind "/" (CodePoint.isOneOf "?") rest
  let (query, _) := takeBehind "?" (· == .newline) rest
  let port ← readPort digits
  return {
    driver
    user := user.map Percent.decode
    password := password.map Percent.decode
    host
    port
    database := database.map Percent.decode
    options := query.elim [] readOptions }

end Tenancy.Url
