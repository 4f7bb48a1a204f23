import Tenancy.Record.Workspace
import Tenancy.Sql.Build

/-!
# The statements of the store

Two upserts and three queries. Ids, users and everything else that a caller gives are values, not
parts of the text.
-/
namespace Tenancy

/-- The store of one type of database with its tables. -/
structure Store where
  dialect : Dialect
  schema : Schema

namespace Store

open Sql

/-- The store of a named type of database, for a beginning of its table's name. -/
def ofName (dbType tablePrefix : Text) : Except Fault Store :=
  match Dialect.ofName? dbType with
  | some dialect => .ok ⟨dialect, .withPrefix tablePrefix⟩
  | none => .error (.unsupportedDatabase "get_dialect" dbType)

/-- Writes a token: a new workspace has nothing else, and an existing one keeps its settings. -/
def tokenUpsert (store : Store) (workspace : Workspace) (seconds : Int) : Except Fault Statement :=
  (Upsert.ofNames store.dialect store.schema.workspaces
    [("id", .text workspace.id), ("signup_token", .text workspace.signupToken),
      ("modified_by", .text workspace.modifiedBy), ("update_at", .int seconds)]
    ["signup_token", "modified_by", "update_at"]).map .upsert

/-- Writes settings: a new workspace gets the token too, and an existing one keeps its own. -/
def settingsUpsert (store : Store) (workspace : Workspace) (token settings : Text)
    (seconds : Int) : Except Fault Statement :=
  (Upsert.ofNames store.dialect store.schema.workspaces
    [("id", .text workspace.id), ("signup_token", .text token), ("settings", .text settings),
      ("modified_by", .text workspace.modifiedBy), ("update_at", .int seconds)]
    ["settings", "modified_by", "update_at"]).map .upsert

/-- The row of a workspace; settings that are null read as an empty document. -/
def workspaceQuery (store : Store) (id : Value) : Statement :=
  let table := store.schema.workspaces
  .query
    { outputs :=
        [(.column table "id", none), (.column table "signup_token", none),
          (.coalesce (.column table "settings") ⟨"coalesce_2", .varchar, .text "\x7b\x7d"⟩,
            some "coalesce_1"),
          (.column table "modified_by", none), (.column table "update_at", none)]
      source := .table table
      condition := some (Expr.holdsValue (.column table "id") "id_1" id)
      groupBy := [] }

def countQuery (store : Store) : Statement :=
  .query
    { outputs := [(.countRows, some "count")]
      source := .table store.schema.workspaces
      condition := none
      groupBy := [] }

/-- The channels that a user belongs to, with the number of boards in each that are no templates. -/
def listingQuery (store : Store) (user : Value) : Except Fault Statement := do
  -- The boards are joined on the left, so that a channel without any is listed too
  let members := store.schema.channelMembers
  let blocks := store.schema.blocks
  let channels := store.schema.channels
  let nonTemplate ← nonTemplate store.dialect blocks "fields"
  let isBoard : Expr :=
    .and (.equals (.column blocks "workspace_id") (.column members "ChannelId"))
      (.and (.equals (.column blocks "type") (.parameter ⟨"type_1", .varchar, .text "board"⟩))
        nonTemplate)
  .ok (.query
    { outputs :=
        [(.column channels "Id", none), (.column channels "DisplayName", none),
          (.count (.column blocks "id"), some "count_1")]
      source :=
        .join (.leftJoin (.table members) blocks isBoard) channels
          (.equals (.column members "ChannelId") (.column channels "Id"))
      condition := some (Expr.holdsValue (.column members "UserId") "UserId_1" user)
      groupBy := [.column channels "Id", .column channels "DisplayName"] })

end Store

end Tenancy
