import Tenancy.Http.Body
import Tenancy.Http.Route
import Tenancy.Store.Basic

/-!
# The HTTP interface

Requests are answered over one store, or over none if no database is configured. A request is
checked in a fixed order: its path and method, whether its body can be read, whether there is a
store, whether its header and body fit, whether the user may use the workspace. Failures that the
interface foresees become responses; any other failure escapes, and the client learns nothing of it.
-/
namespace Tenancy.Http

variable {δ : Type}

/-- The HTTP interface. -/
structure Api where
  store : Option Store
  /-- Whether a user may use a workspace. -/
  admits : Store → (user id : Text) → Bool :=
    fun store user id => store.hasAccess (.text user) (.text id)

namespace Api

/-- The response where no database is configured. -/
def unconfigured : Response :=
  .refusal 503 "Database not configured (BOARDSTORE_DATABASE_URL is unset)."

def reply (value : Value) : Step δ Response := Step.ofExcept (Response.ofValue value)

def refuse (problems : List PartProblem) : Step δ Response := Step.ofExcept (unfit problems)

/-- The response to a user who may not use a workspace. -/
def forbidden (id : Text) : Response :=
  .refusal 403 ("No access to workspace '" ++ id ++ "'.")

def count [Engine δ] (store : Store) : Step δ Response := do
  reply (CountReply.toValue ⟨← store.getWorkspaceCount⟩)

def list [Engine δ] (store : Store) (user : Text) : Step δ Response :=
  tryCatch
    (do
      let entries ← store.getUserWorkspaces (.text user)
      reply (.list (entries.map UserWorkspace.toValue)))
    fun
      | .unsupportedDatabase operation dbType =>
        return .refusal 501 (Fault.unsupportedMessage operation dbType)
      | fault => throw fault

def workspace [Engine δ] (store : Store) (id : Text) : Step δ Response := do
  let found ← tryCatch (some <$> store.getWorkspace (.text id)) fun
    | .workspaceNotFound _ => return none
    | fault => throw fault
  match found with
  | some workspace => reply workspace.toValue
  | none => return .refusal 404 ("Workspace '" ++ id ++ "' not found.")

/-- The response to new settings: the workspace as it is then. -/
def settings [Engine δ] (store : Store) (id user : Text) (update : SettingsUpdate) :
    Step δ Response := do
  let refused ← tryCatch
    (do
      store.upsertSettings { id, settings := update.settings, modifiedBy := user }
      return none)
    fun
      | .unserializableSettings cause =>
        return some (Response.refusal 422 (Fault.unserializableMessage cause))
      | fault => throw fault
  match refused with
  | some response => return response
  | none => reply (← store.getWorkspace (.text id)).toValue

def regenerate [Engine δ] (store : Store) (id user : Text) : Step δ Response := do
  let token ← store.regenerateSignupToken (.text id) (.text user)
  reply (TokenReply.toValue ⟨id, token⟩)

/-- A response for a user who may use a workspace. -/
def admitted (api : Api) (store : Store) (user id : Text) (response : Step δ Response) :
    Step δ Response :=
  if api.admits store user id then response else return forbidden id

/-- A response for a request that names its user. -/
def withUser (request : Request) (response : Text → Step δ Response) : Step δ Response :=
  match request.user with
  | .ok user => response user
  | .error problem => refuse [problem]

/-- The response to new settings, if the request names its user and its body fits. -/
def updateSettings [Engine δ] (api : Api) (store : Store) (request : Request) (body : Body)
    (id : Text) : Step δ Response := do
  match request.user, ← Step.ofExcept body.settingsUpdate with
  | .ok user, .ok update => api.admitted store user id (settings store id user update)
  | .error missing, .error unfit => refuse [missing, unfit]
  | .error problem, .ok _ => refuse [problem]
  | .ok _, .error problem => refuse [problem]

/-- The response over the store, if there is one. -/
def withStore (api : Api) (response : Store → Step δ Response) : Step δ Response :=
  match api.store with
  | some store => response store
  | none => return unconfigured

/-- The response of a route to a request with the right method. -/
def respond [Engine δ] (api : Api) (request : Request) : Route → Step δ Response
  | .health => return .ofText 200 "\x7b\"status\":\"ok\"\x7d"
  | .count => api.withStore count
  | .list => api.withStore fun store => withUser request (list store)
  | .workspace id => api.withStore fun store =>
    withUser request fun user => api.admitted store user id (workspace store id)
  | .settings id =>
    match Body.ofRequest request with
    | .error response => return response
    | .ok body => api.withStore fun store => api.updateSettings store request body id
  | .regenerate id => api.withStore fun store =>
    withUser request fun user => api.admitted store user id (regenerate store id user)

def handle [Engine δ] (api : Api) (request : Request) : Step δ Response :=
  match Route.ofPath? request.path with
  | none => return unrouted request
  | some route =>
    if request.method = Text.ofString route.method then api.respond request route
    else return .wrongMethod route.method

/-- The response that a client gets, and the failure that escaped, if one did. -/
def serve [Engine δ] (api : Api) (request : Request) :
    StateM (World δ) (Response × Option Fault) := do
  match ← (api.handle request).run with
  | .ok response => return (response, none)
  | .error fault => return (.internalError, some fault)

end Api

end Tenancy.Http
