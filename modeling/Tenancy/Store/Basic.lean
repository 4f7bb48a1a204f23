import Tenancy.Json.Octets
import Tenancy.Store.Listing
import Tenancy.Store.Statements

/-!
# The workspace store

Every operation takes at most one connection and runs at most one statement. What can fail without
the database comes before it, in a fixed order, and the first failure ends the operation.
-/
namespace Tenancy.Store

open Sql

variable {δ : Type}

def context (store : Store) : List (String × Value) :=
  [("db_type", .text (Text.ofString store.dialect.name))]

/-- The text that settings are stored as. How deep they nest makes no difference here: the depth to
which an interpreter can follow them depends on the stack that it runs on. -/
def encodeSettings (settings : Value) : Except Fault Text :=
  match Json.ofValue false settings with
  | .ok document => .ok (document.write .stored)
  | .error cause => .error (.unserializableSettings cause)

/-- Runs a statement in a transaction of its own. -/
def writeWith [Engine δ] (store : Store) (statement : Statement) : Step δ Unit := do
  Step.connect .transaction
  let _ ← Step.execute store.dialect statement

def upsertSignupToken [Engine δ] (store : Store) (workspace : Workspace) : Step δ Unit := do
  let seconds ← Step.readClock
  let statement ← Step.ofExcept (store.tokenUpsert workspace seconds)
  store.writeWith statement

/-- Writes the settings of a workspace. -/
def upsertSettings [Engine δ] (store : Store) (workspace : Workspace) : Step δ Unit := do
  -- A token is minted for the case that it is a new one
  let seconds ← Step.readClock
  let settings ← Step.ofExcept (encodeSettings workspace.settings)
  let token ← Step.mintToken
  let statement ← Step.ofExcept (store.settingsUpsert workspace token settings seconds)
  store.writeWith statement

/-- The workspace of unchecked fields. -/
def buildWorkspace (fields : Fields) : Step δ Workspace :=
  Step.ofExcept <| match Workspace.ofFields fields with
    | .ok workspace => .ok workspace
    | .error problems => .error (.invalidRecord problems)

/-- Mints and writes a new token for a workspace, logs who asked for it, and gives it back. -/
def regenerateSignupToken [Engine δ] (store : Store) (id modifiedBy : Value) : Step δ Text := do
  let token ← Step.mintToken
  let workspace ←
    buildWorkspace [("id", id), ("signup_token", .text token), ("modified_by", modifiedBy)]
  store.upsertSignupToken workspace
  Step.writeLog ⟨.info, "Signup token regenerated by " ++ modifiedBy.toText,
    store.context ++ [("workspace_id", id)], none⟩
  return token

def readSettings (stored : Value) : Except Fault Json :=
  match stored with
  | .text t => (Json.read t).mapError .unreadable
  | .octets data => (Json.readOctets data).mapError .unreadable
  | value => .error (.notADocument value.typeName)

/-- The stored settings of a workspace. -/
def decodeSettings (store : Store) (id stored : Value) : Step δ Json := do
  -- What is no document is logged; other ways in which stored settings are unreadable are passed on
  match readSettings stored with
  | .ok document => return document
  | .error (.unreadable (.malformed cause)) =>
    Step.writeLog ⟨.error, "ERROR get_workspace settings json decode",
      store.context ++ [("workspace_id", id)], some "JSONDecodeError"⟩
    throw (.unreadableSettings id.toText cause)
  | .error fault => throw fault

/-- The value itself if it counts as present, and another one if not. -/
def orElse (value absent : Value) : Value := if value.isPresent then value else absent

def getWorkspace [Engine δ] (store : Store) (id : Value) : Step δ Workspace := do
  Step.connect .reading
  let result ← Step.execute store.dialect (store.workspaceQuery id)
  match ← Step.ofExcept result.oneOrNone with
  | none => throw (.workspaceNotFound id.toText)
  | some [rowId, signupToken, settings, modifiedBy, updateAt] =>
    let document ← store.decodeSettings rowId settings
    buildWorkspace
      [("id", rowId), ("signup_token", signupToken), ("settings", document.toValue),
        ("modified_by", orElse modifiedBy (.text [])), ("update_at", orElse updateAt (.int 0))]
  | some row => throw (.rowWidth 5 row.length)

/-- Whether a user may use a workspace. Everyone may. -/
def hasAccess (_store : Store) (_user _id : Value) : Bool := true

def failureRecord (store : Store) (message : Text) (fault : Fault) : LogRecord :=
  ⟨.error, message, store.context, some fault.report.kind⟩

/-- Runs a step, and logs a failure of the database before passing it on. -/
def logFailure {α : Type} (store : Store) (message : Text) (step : Step δ α) : Step δ α :=
  tryCatch step fun fault => do
    if fault.isFromDatabase then Step.writeLog (store.failureRecord message fault)
    throw fault

def getWorkspaceCount [Engine δ] (store : Store) : Step δ Int :=
  store.logFailure "ERROR get_workspace_count" do
    Step.connect .reading
    let result ← Step.execute store.dialect store.countQuery
    let value ← Step.ofExcept result.scalar
    match value.toInt with
    | .ok count => return count
    | .error cause => throw (.conversion cause)

/-- The workspaces that a user belongs to. -/
def getUserWorkspaces [Engine δ] (store : Store) (user : Value) : Step δ (List UserWorkspace) := do
  -- A bad row comes before a failure behind the rows
  let statement ← Step.ofExcept (store.listingQuery user)
  Step.connect .reading
  let result ←
    store.logFailure ("ERROR get_user_workspaces (user=" ++ user.toText ++ ")")
      (Step.execute store.dialect statement)
  let entries ← decodeRows store.context (result.rows.map .tuple)
  match result.failure with
  | some fault => throw fault
  | none => return entries

end Tenancy.Store
