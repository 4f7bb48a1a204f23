import Tenancy.Database.Cell
import Tenancy.Sql.Render

/-!
# The embedded database

Tables with rows in the order of their insertion. A row fits its table if no column that must hold
something is null and no other row has its key; a statement with a row that does not fit changes
nothing. Table names are the same if they differ in the case of letters from A to Z only. A
statement is refused as a text before anything else if its text has no octets or holds a null.
-/
namespace Tenancy

/-- The cells of a row, in the order of its table's columns. -/
abbrev Row := List Cell

/-- A table with its rows. -/
structure StoredTable where
  table : Table
  rows : List Row

/-- A database. -/
structure Database where
  tables : List StoredTable

/-- A database without tables. -/
def Database.empty : Database := ⟨[]⟩

namespace Table

def keyOf (table : Table) (row : Row) : List Cell :=
  (table.columns.zip row).filterMap fun (column, cell) => if column.isKey then some cell else none

/-- The row in which the given columns hold the given cells, as they are stored, and all others
are null. -/
def rowOf (table : Table) (values : List (Column × Cell)) : Row :=
  table.columns.map fun column =>
    match values.find? fun (given, _) => given.name == column.name with
    | some (_, cell) => cell.stored column.type
    | none => .null

/-- A row with the cells of another one in some columns. -/
def overwrite (table : Table) (updates : List Column) (old new : Row) : Row :=
  (table.columns.zip (old.zip new)).map fun (column, was, is) =>
    if updates.any (·.name == column.name) then is else was

def qualified (table : Table) (column : Column) : Text :=
  table.name ++ "." ++ Text.ofString column.name

/-- The first column of a row that must hold something and is null. -/
def nullFault? (table : Table) (row : Row) : Option Fault :=
  (table.columns.zip row).findSome? fun (column, cell) =>
    if !column.nullable && cell == .null then
      some (.database "IntegrityError" ("NOT NULL constraint failed: " ++ table.qualified column))
    else none

def duplicateFault (table : Table) : Fault :=
  .database "IntegrityError"
    ("UNIQUE constraint failed: " ++ Text.join ", " (table.key.map table.qualified))

end Table

namespace StoredTable

/-- Whether a row of the table has the key of a given row. -/
def hasKeyOf (stored : StoredTable) (row : Row) : Bool :=
  stored.rows.any fun other => stored.table.keyOf other == stored.table.keyOf row

def insert (stored : StoredTable) (row : Row) : Except Fault StoredTable :=
  match stored.table.nullFault? row with
  | some fault => .error fault
  | none =>
    if stored.hasKeyOf row then .error stored.table.duplicateFault
    else .ok { stored with rows := stored.rows ++ [row] }

/-- The table with one more row, or with the row of the same key overwritten in some columns. -/
def upsert (stored : StoredTable) (row : Row) (updates : List Column) :
    Except Fault StoredTable :=
  match stored.table.nullFault? row with
  | some fault => .error fault
  | none =>
    if stored.hasKeyOf row then
      .ok { stored with
        rows := stored.rows.map fun other =>
          if stored.table.keyOf other == stored.table.keyOf row then
            stored.table.overwrite updates other row
          else other }
    else .ok { stored with rows := stored.rows ++ [row] }

end StoredTable

namespace Database

/-- Whether two names are those of one table. -/
def sameName (a b : Text) : Bool := a.asciiLower == b.asciiLower

def noSuchTable (name : Text) : Fault :=
  .database "OperationalError" ("no such table: " ++ name)

def find (database : Database) (name : Text) : Except Fault StoredTable :=
  match database.tables.find? fun stored => sameName stored.table.name name with
  | some stored => .ok stored
  | none => .error (noSuchTable name)

def replace (database : Database) (stored : StoredTable) : Database :=
  ⟨database.tables.map fun other =>
    if sameName other.table.name stored.table.name then stored else other⟩

/-- Refuses the text of a statement that cannot be passed on. -/
def checkText (statement : Text) : Except Fault Unit :=
  match statement.encodeFault? with
  | some fault => .error (.unencodable fault)
  | none =>
    if statement.any (·.val == 0) then
      .error (.database "ProgrammingError" "the query contains a null character")
    else .ok ()

/-- The statement that asks whether a table is there. -/
def inquiry (table : Table) : Text :=
  let quoted := table.name.flatMap (Sql.quotedCharacter .sqlite)
  "PRAGMA main.table_info(\"" ++ quoted ++ "\")"

/-- What the names of the database's own tables begin with. -/
def reservedStart : Text := "sqlite_"

/-- Refuses the name of a new table that is reserved. -/
def checkName (name : Text) : Except Fault Unit :=
  if (Text.after? reservedStart name.asciiLower).isSome then
    .error (.database "OperationalError" ("object name reserved for internal use: " ++ name))
  else .ok ()

/-- The database with one more table, which starts empty, unless it has that table. -/
def createTable (database : Database) (table : Table) : Except Fault Database :=
  if database.tables.any fun stored => sameName stored.table.name table.name then .ok database
  else (checkName table.name).map fun _ => ⟨database.tables ++ [⟨table, []⟩]⟩

/-- The database with those of some tables that it lacks, or none of them if one cannot be made. -/
def create (database : Database) (tables : List Table) : Except Fault Database := do
  tables.forM fun table => checkText (inquiry table)
  tables.foldlM createTable database

/-- The database without some tables. -/
def drop (database : Database) (tables : List Table) : Except Fault Database := do
  tables.forM fun table => checkText (inquiry table)
  .ok ⟨database.tables.filter fun stored =>
    !tables.any fun table => sameName stored.table.name table.name⟩

/-- The cells that parameters are passed as, counted from a position on. -/
def bind (position : Nat) : List Value → Except Fault (List Cell)
  | [] => .ok []
  | value :: rest => do
    let cell ← Cell.ofValue position value
    let cells ← bind (position + 1) rest
    .ok (cell :: cells)

/-- The database after an insert of given values into a table. -/
def insert (database : Database) (table : Table) (values : List (Column × Value)) :
    Except Fault Database := do
  checkText (Sql.renderInsert .sqlite table values)
  let stored ← database.find table.name
  let cells ← bind 1 (values.map (·.2))
  let stored ← stored.insert (stored.table.rowOf ((values.map (·.1)).zip cells))
  .ok (database.replace stored)

end Database

end Tenancy
