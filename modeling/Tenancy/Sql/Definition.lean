import Tenancy.Sql.Render
import Tenancy.Store.Fault
import Tenancy.Text.Digest
import Tenancy.Text.Utf8

/-!
# Table definitions

The statements that make the tables. Primary keys and indexes have names made of the names of
their table and column.
-/
namespace Tenancy.Sql

/-- How long the name of a key or an index may be. -/
def nameLimit : Dialect → Nat
  | .mysql => 64
  | .postgres => 63
  | .sqlite => 9999

/-- A name within the limit: a longer one is cut, and the end of its digest tells it from others
that begin alike. -/
def withinLimit (dialect : Dialect) (name : Text) : Except Fault Text := do
  -- The digest is that of the name's octets, so a name without octets stays long
  let limit := nameLimit dialect
  if name.length ≤ limit then return name
  let octets ← (Utf8.encode name).mapError Fault.unencodable
  let digest := Digest.digits (Digest.md5 octets)
  return name.take (limit - 8) ++ "_" ++ digest.drop (digest.length - 4)

def defineColumn (dialect : Dialect) (column : Column) : Text :=
  columnName dialect column.name ++ " " ++ typeName column.type
    ++ (if column.nullable then "" else " NOT NULL")

def createTable (dialect : Dialect) (table : Table) : Except Fault Text := do
  let keyName ← withinLimit dialect ("pk_" ++ table.name)
  let key := Text.join ", " (table.key.map (columnName dialect ·.name))
  return "CREATE TABLE " ++ identifier dialect table.name ++ " ( "
    ++ Text.join ", " (table.columns.map (defineColumn dialect)) ++ ", CONSTRAINT "
    ++ identifier dialect keyName ++ " PRIMARY KEY (" ++ key ++ ") )"

def createIndex (dialect : Dialect) (table : Table) (column : Column) : Except Fault Text := do
  let name ← withinLimit dialect ("ix_" ++ table.name ++ "_" ++ Text.ofString column.name)
  return "CREATE INDEX " ++ identifier dialect name ++ " ON " ++ identifier dialect table.name
    ++ " (" ++ columnName dialect column.name ++ ")"

def defineTable (dialect : Dialect) (table : Table) : Except Fault (List Text) := do
  let made ← createTable dialect table
  let indexes ← (table.columns.filter (·.indexed)).mapM (createIndex dialect table)
  return made :: indexes

/-- The statements that make every table and index, in the order of their texts. -/
def define (dialect : Dialect) (schema : Schema) : Except Fault (List Text) := do
  let statements ← schema.tables.mapM (defineTable dialect)
  return (statements.flatten.map oneLine).mergeSort Text.le

end Tenancy.Sql
