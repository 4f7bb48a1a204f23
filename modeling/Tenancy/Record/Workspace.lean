import Tenancy.Record.Problem

/-!
# Workspace records

A workspace is the scope that owns boards: an id, a token that admits new members, settings that
nothing here looks into, and who wrote it last and when. The other records are what a listing
shows of a workspace and the small bodies of requests and replies.
-/
namespace Tenancy

open Fields

/-- A workspace. The settings are any value; an empty dictionary stands for none. -/
structure Workspace where
  id : Text
  signupToken : Text := []
  settings : Value := .dict []
  modifiedBy : Text := []
  /-- Seconds since the epoch. -/
  updateAt : Int := 0

/-- A workspace as its member sees it, with the number of its boards that are no templates. -/
structure UserWorkspace where
  id : Text
  title : Text
  boardCount : Int := 0
  deriving DecidableEq

/-- The body of a request that replaces the settings. -/
structure SettingsUpdate where
  settings : Value := .dict []

/-- The reply to a request for a new token. -/
structure TokenReply where
  workspaceId : Text
  signupToken : Text
  deriving DecidableEq

/-- The reply to a request for the number of workspaces. -/
structure CountReply where
  count : Int
  deriving DecidableEq

namespace Workspace

/-- The workspace of given fields; the settings are taken as they are. -/
def ofFields (fields : Fields) : Except (List FieldProblem) Workspace :=
  let id := fields.require "id" Value.asText
  let signupToken := fields.optional "signup_token" Value.asText []
  let modifiedBy := fields.optional "modified_by" Value.asText []
  let updateAt := fields.optional "update_at" Value.asInt 0
  match id, signupToken, modifiedBy, updateAt with
  | .ok id, .ok signupToken, .ok modifiedBy, .ok updateAt =>
    .ok ⟨id, signupToken, (fields.get? "settings").getD (.dict []), modifiedBy, updateAt⟩
  | _, _, _, _ =>
    .error (problem? id ++ problem? signupToken ++ problem? modifiedBy ++ problem? updateAt)

def toValue (workspace : Workspace) : Value :=
  .dict [(.text "id", .text workspace.id), (.text "signup_token", .text workspace.signupToken),
    (.text "settings", workspace.settings), (.text "modified_by", .text workspace.modifiedBy),
    (.text "update_at", .int workspace.updateAt)]

end Workspace

namespace UserWorkspace

def ofFields (fields : Fields) : Except (List FieldProblem) UserWorkspace :=
  let id := fields.require "id" Value.asText
  let title := fields.require "title" Value.asText
  let boardCount := fields.optional "board_count" Value.asInt 0
  match id, title, boardCount with
  | .ok id, .ok title, .ok boardCount => .ok ⟨id, title, boardCount⟩
  | _, _, _ => .error (problem? id ++ problem? title ++ problem? boardCount)

def toValue (entry : UserWorkspace) : Value :=
  .dict [(.text "id", .text entry.id), (.text "title", .text entry.title),
    (.text "board_count", .int entry.boardCount)]

end UserWorkspace

namespace SettingsUpdate

/-- The update of given fields, which always fit. -/
def ofFields (fields : Fields) : SettingsUpdate :=
  ⟨(fields.get? "settings").getD (.dict [])⟩

def toValue (update : SettingsUpdate) : Value := .dict [(.text "settings", update.settings)]

end SettingsUpdate

namespace TokenReply

def ofFields (fields : Fields) : Except (List FieldProblem) TokenReply :=
  let workspaceId := fields.require "workspace_id" Value.asText
  let signupToken := fields.require "signup_token" Value.asText
  match workspaceId, signupToken with
  | .ok workspaceId, .ok signupToken => .ok ⟨workspaceId, signupToken⟩
  | _, _ => .error (problem? workspaceId ++ problem? signupToken)

def toValue (reply : TokenReply) : Value :=
  .dict [(.text "workspace_id", .text reply.workspaceId),
    (.text "signup_token", .text reply.signupToken)]

end TokenReply

namespace CountReply

def ofFields (fields : Fields) : Except (List FieldProblem) CountReply :=
  match fields.require "count" Value.asInt with
  | .ok count => .ok ⟨count⟩
  | .error problem => .error [problem]

def toValue (reply : CountReply) : Value := .dict [(.text "count", .int reply.count)]

end CountReply

end Tenancy
