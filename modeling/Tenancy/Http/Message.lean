import Tenancy.Json.Dump
import Tenancy.Store.Fault

/-!
# Requests and responses

A request has its path decoded and its headers as they came. A response holds what a client sees of
it: the status, the headers that are not the transport's, and the body.
-/
namespace Tenancy.Http

/-- A request. -/
structure Request where
  method : Text
  path : Text
  query : Text
  headers : List (Text × Text)
  body : Octets

/-- The first value of a header; the case of its name does not matter. -/
def Request.header? (request : Request) (name : String) : Option Text :=
  (request.headers.find? fun header => header.1.asciiLower == Text.ofString name).map (·.2)

/-- A response. -/
structure Response where
  status : Nat
  headers : List (String × Text)
  body : Text
  deriving DecidableEq

namespace Response

/-- A response with a document. -/
def ofText (status : Nat) (body : Text) : Response :=
  ⟨status, [("content-type", "application/json")], body⟩

/-- A response that tells in words why the request is not met. -/
def refusal (status : Nat) (detail : Text) : Response :=
  ofText status (Json.write .problem (.ofMembers [("detail", .string detail)]))

def notFound : Response := refusal 404 "Not Found"

/-- Something is at the path, but for another method. -/
def wrongMethod (allowed : String) : Response :=
  let response := refusal 405 "Method Not Allowed"
  { response with headers := ("allow", Text.ofString allowed) :: response.headers }

def moved (location : Text) : Response := ⟨307, [("location", location)], []⟩

def internalError : Response :=
  ⟨500, [("content-type", "text/plain; charset=utf-8")], "Internal Server Error"⟩

def ofValue (value : Value) : Except Fault Response :=
  match Json.dumpWith none value with
  | .ok body => .ok (ofText 200 body)
  | .error cause => .error (.unprintable cause)

end Response

end Tenancy.Http
