import Tenancy.Http.Message
import Tenancy.Text.Percent

/-!
# Where a redirection leads

A redirection stays at the host that the request names. What the request names has to be a host by
the grammar of addresses, with a port that there can be; otherwise the redirection leads to the
service's own host. In the path, a question mark or a number sign is part of a name and is encoded,
so that nothing of the path is taken for the query.
-/
namespace Tenancy.Http

/-- The characters with a meaning of their own inside the parts of an address. -/
def isDelimiter (c : CodePoint) : Bool := c.isOneOf "!$&'()*+,;="

def isNameCharacter (c : CodePoint) : Bool :=
  Percent.isUnreserved c || isDelimiter c || c == CodePoint.ofChar '%'

def isAddressCharacter (c : CodePoint) : Bool := c.hexDigit?.isSome || c.isOneOf ":."

/-- Whether a text is nothing, or a colon and the number of a port. -/
def isPort (t : Text) : Bool :=
  match Text.after? ":" t with
  | some digits => digits.all (·.isDigit) && Text.decimalValue digits ≤ 65535
  | none => t.isEmpty

/-- Whether a text is a host, with a port or without. -/
def isHost (t : Text) : Bool :=
  match (Text.after? "[" t).bind (Text.cut? (CodePoint.ofChar ']')) with
  | some (address, port) => !address.isEmpty && address.all isAddressCharacter && isPort port
  | none =>
    let (name, port) := Text.cutBefore (· == CodePoint.ofChar ':') t
    !name.isEmpty && name.all isNameCharacter && isPort port

/-- The host of the service. -/
def ownHost : Text := "test"

def Request.host (request : Request) : Text :=
  ((request.header? "host").filter isHost).getD ownHost

/-- What stays as it is in a path. -/
def isPathCharacter (c : CodePoint) : Bool := isDelimiter c || c.isOneOf "/:@"

/-- What stays as it is in the address of a redirection. -/
def isLocation (c : CodePoint) : Bool := isPathCharacter c || c.isOneOf "%#?[]"

/-- The address of a path at the host of a request, with the request's query. -/
def Request.location (request : Request) (path : Text) : Text :=
  let address : Text :=
    "http://" ++ request.host ++ Percent.encode isPathCharacter path
  Percent.encode isLocation
    (if request.query.isEmpty then address
      else address ++ CodePoint.ofChar '?' :: request.query)

end Tenancy.Http
