import Tenancy.Http.Message
import Tenancy.Json.Octets
import Tenancy.Record.Workspace
import Tenancy.Text.Blank
import Tenancy.Text.Utf8

/-!
# Request bodies

A body counts as a document only if its content type says so; any other body is taken as it is. A
document that is no object, and a body that is no document, do not fit the record they are for, and
the reply shows them.
-/
namespace Tenancy.Http

/-- A body as it is taken. -/
inductive Body where
  | absent
  | document (content : Json)
  | raw (octets : Octets)

namespace Body

def isDocumentType (contentType : Text) : Bool :=
  let media := Text.asciiLower
    (Text.trim CodePoint.isBlank (contentType.takeWhile (· != CodePoint.ofChar ';')))
  match Text.splitOn (CodePoint.ofChar '/') media with
  | [main, sub] =>
    main == Text.ofString "application"
      && (sub == Text.ofString "json" || (Text.after? "nosj+" sub.reverse).isSome)
  | _ => false

/-- The response to a body that is no document although it should be one. -/
def invalidDocument (fault : Json.SyntaxFault) : Response :=
  .ofText 422 <| Json.write .problem <| .ofMembers
    [("detail", .array [.ofMembers
      [("type", .ofString "json_invalid"),
        ("loc", .array [.ofString "body", .int fault.position]),
        ("msg", .ofString "JSON decode error"),
        ("input", .object []),
        ("ctx", .ofMembers [("error", .ofString fault.problem.message)])]])]

/-- The body of a request, or the response to one that cannot be read. -/
def ofRequest (request : Request) : Except Response Body :=
  if request.body.isEmpty then .ok .absent
  else if (request.header? "content-type").any isDocumentType then
    match Json.readOctets request.body with
    | .ok content => .ok (.document content)
    | .error (.malformed fault) => .error (invalidDocument fault)
    | .error _ => .error (.refusal 400 "There was an error parsing the body")
  else .ok (.raw request.body)

end Body

/-- A part of a request that does not fit: where it is, why, and what is there. -/
structure PartProblem where
  location : List String
  misfit : Misfit
  input : Json

/-- The entry of a part in the list of problems. -/
def PartProblem.entry (problem : PartProblem) : Json :=
  .ofMembers
    [("type", .ofString problem.misfit.code),
      ("loc", .array (problem.location.map .ofString)),
      ("msg", .string problem.misfit.message),
      ("input", problem.input)]

/-- The response that lists problems. -/
def unfit (problems : List PartProblem) : Except Fault Response :=
  -- The list shows what the client sent, and numbers that are not finite or surrogates in it cannot
  -- be sent back
  let details := Json.array (problems.map PartProblem.entry)
  match Json.ofValue false details.toValue with
  | .error _ => .error .notFinite
  | .ok details =>
    let body := Json.write .problem (.ofMembers [("detail", details)])
    match body.encodeFault? with
    | some fault => .error (.unencodable fault)
    | none => .ok (.ofText 422 body)

/-- The header that names the user, or the problem that it is missing. -/
def Request.user (request : Request) : Except PartProblem Text :=
  match request.header? "x-user-id" with
  | some user => .ok user
  | none => .error ⟨["header", "x-user-id"], .missing, .null⟩

/-- The new settings that a body holds, the problem that it does not fit, or the failure to show
what does not fit. -/
def Body.settingsUpdate : Body → Except Fault (Except PartProblem SettingsUpdate)
  | .absent => .ok (.error ⟨["body"], .missing, .null⟩)
  | .document (.object members) =>
    .ok (.ok (SettingsUpdate.ofFields
      ((Json.collapse members).map fun (name, value) => (name, value.toValue))))
  | .document content => .ok (.error ⟨["body"], .notObject, content⟩)
  | .raw octets =>
    match Utf8.decode octets with
    | .ok t => .ok (.error ⟨["body"], .notObject, .string t⟩)
    | .error fault => .error (.undecodable fault)

end Tenancy.Http
