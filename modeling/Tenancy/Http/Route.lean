import Tenancy.Http.Location

/-!
# Routes

A path leads to at most one route, and a route answers one method. The id in a path is any text
without a slash that is not empty. A line break at the end of a path is let pass, and slashes there
lead to the path without them.
-/
namespace Tenancy.Http

/-- What a path leads to. -/
inductive Route where
  | health
  | count
  | list
  | workspace (id : Text)
  | settings (id : Text)
  | regenerate (id : Text)
  deriving DecidableEq, Repr

namespace Route

def method : Route → String
  | .settings _ => "POST"
  | .regenerate _ => "POST"
  | _ => "GET"

/-- The route behind an id. -/
def ofAction? (id action : Text) : Option Route :=
  if id.isEmpty then none
  else if action = "get" then some (.workspace id)
  else if action = "settings" then some (.settings id)
  else if action = "regenerate_signup_token" then some (.regenerate id)
  else none

/-- The route of the pieces between the slashes of a path. -/
def ofPieces? : List Text → Option Route
  | [[], root, leaf] => if root = "api" ∧ leaf = "health" then some .health else none
  | [[], root, area, leaf] =>
    if root = "api" ∧ area = "workspaces" then
      if leaf = "count" then some .count else if leaf = "list" then some .list else none
    else none
  | [[], root, area, id, action] =>
    if root = "api" ∧ area = "workspaces" then ofAction? id action else none
  | _ => none

def ofPath? (path : Text) : Option Route :=
  match ofPieces? (Text.splitOn (CodePoint.ofChar '/') path) with
  | some route => some route
  | none =>
    if path.getLast? = some .newline then
      ofPieces? (Text.splitOn (CodePoint.ofChar '/') path.dropLast)
    else none

end Route

/-- The path without the slashes at its end, if it has any and they are not all of it. -/
def withoutSlashes? (path : Text) : Option Text :=
  if path = "/" ∨ path.getLast? ≠ some (CodePoint.ofChar '/') then none
  else some (Text.trimEnd (· == CodePoint.ofChar '/') path)

/-- The response to a request that no route answers: another address, or none. -/
def unrouted (request : Request) : Response :=
  match withoutSlashes? request.path with
  | some path =>
    if (Route.ofPath? path).isSome then .moved (request.location path) else .notFound
  | none => .notFound

end Tenancy.Http
