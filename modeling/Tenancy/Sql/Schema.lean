import Tenancy.Text.Basic

/-!
# Tables

The store owns one table, whose name takes a configurable beginning. It reads three more, which
belong to the chat server beside it and keep their names.
-/
namespace Tenancy

/-- The type of a column. -/
inductive ColumnType where
  | varchar (length : Nat)
  | text
  | bigint
  deriving DecidableEq, Repr

/-- A column of a table. Key columns together identify a row and hold no null. -/
structure Column where
  name : String
  type : ColumnType
  isKey : Bool := false
  nullable : Bool := true
  indexed : Bool := false
  deriving DecidableEq, Repr

/-- A table and its columns, in the order in which rows hold them. -/
structure Table where
  name : Text
  columns : List Column
  deriving DecidableEq, Repr

namespace Table

def column? (table : Table) (name : Text) : Option Column :=
  table.columns.find? fun column => Text.ofString column.name = name

def key (table : Table) : List Column := table.columns.filter (·.isKey)

end Table

/-- The tables that the store knows. -/
structure Schema where
  workspaces : Table
  blocks : Table
  channelMembers : Table
  channels : Table
  deriving DecidableEq, Repr

namespace Schema

/-- The tables for a beginning of the name of the first one. -/
def withPrefix (tablePrefix : Text) : Schema where
  workspaces :=
    { name := tablePrefix ++ "workspaces"
      columns :=
        [{ name := "id", type := .varchar 36, isKey := true, nullable := false },
          { name := "signup_token", type := .varchar 100, nullable := false },
          { name := "settings", type := .text },
          { name := "modified_by", type := .varchar 36 },
          { name := "update_at", type := .bigint }] }
  blocks :=
    { name := "focalboard_blocks"
      columns :=
        [{ name := "id", type := .varchar 36, isKey := true, nullable := false },
          { name := "workspace_id", type := .varchar 36, indexed := true },
          { name := "type", type := .text },
          { name := "title", type := .text },
          { name := "fields", type := .text }] }
  channelMembers :=
    { name := "ChannelMembers"
      columns :=
        [{ name := "ChannelId", type := .varchar 26, isKey := true, nullable := false },
          { name := "UserId", type := .varchar 26, isKey := true, nullable := false }] }
  channels :=
    { name := "Channels"
      columns :=
        [{ name := "Id", type := .varchar 26, isKey := true, nullable := false },
          { name := "DisplayName", type := .varchar 64 }] }

def tables (schema : Schema) : List Table :=
  [schema.workspaces, schema.blocks, schema.channelMembers, schema.channels]

end Schema

end Tenancy
