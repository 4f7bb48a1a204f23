import Tenancy.Database.Location
import Tenancy.Database.Query

/-!
# The embedded database as the store's database

It compiles every statement but the upsert of MySQL. A failed statement changes nothing, and
connections always succeed. As a host, the database is there at every location.
-/
namespace Tenancy.Database

open Sql

/-- The table of an upsert, and its row. -/
def prepareUpsert (database : Database) (upsert : Upsert) : Except Fault (StoredTable × Row) := do
  checkText (renderUpsert .sqlite upsert)
  let stored ← database.find upsert.table.name
  let cells ← bind 1 (upsert.values.map (·.2))
  .ok (stored, stored.table.rowOf ((upsert.values.map (·.1)).zip cells))

def runUpsert (database : Database) (upsert : Upsert) : Except Fault Database := do
  let (stored, row) ← database.prepareUpsert upsert
  let stored ← stored.upsert row upsert.updates
  .ok (database.replace stored)

def runQuery (database : Database) (query : Query) : Except Fault (List (List Value)) := do
  checkText (renderQuery .sqlite query)
  let _ ← frames database query.source
  let _ ← bind 1 (query.parameters.map (·.value))
  let rows ← database.select query
  .ok (rows.map fun row => row.map Cell.toValue)

/-- Runs a statement of a type of database that may not be changed. -/
def runReading (dialect : Dialect) (statement : Statement) (database : Database) :
    Except Fault ResultSet :=
  -- An upsert fails there as soon as it would start to change something
  match statement with
  | .upsert upsert =>
    if dialect = .mysql then .error .notCompiled
    else do
      let _ ← database.prepareUpsert upsert
      .error (.database "OperationalError" "attempt to write a readonly database")
  | .query query => (database.runQuery query).map fun rows => ⟨rows, none⟩

/-- Runs a statement of a type of database. -/
def run (dialect : Dialect) (statement : Statement) (database : Database) :
    Except Fault ResultSet × Database :=
  match statement with
  | .upsert upsert =>
    if dialect = .mysql then (.error .notCompiled, database)
    else match database.runUpsert upsert with
      | .ok after => (.ok ⟨[], none⟩, after)
      | .error fault => (.error fault, database)
  | .query query =>
    match database.runQuery query with
    | .ok rows => (.ok ⟨rows, none⟩, database)
    | .error fault => (.error fault, database)

instance : Host Database where
  connect _ database := (.ok (), database)
  execute := run
  openAt _ database := database

end Tenancy.Database
