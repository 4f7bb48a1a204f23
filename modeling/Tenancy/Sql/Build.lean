import Tenancy.Sql.Statement
import Tenancy.Store.Fault

/-!
# Building statements from names

An upsert is asked for by the names of columns. Its values are handed over under these names, two of
which are taken. The columns to update are looked up next, one after the other; then there has to be
at least one; and only when the statement is compiled do values for unknown columns come to light.
The statement itself follows the order of the table's columns, whatever the order of the request.
-/
namespace Tenancy

/-- The type of database that a value names. -/
def Dialect.ofValue (name : Value) : Except Fault Dialect :=
  -- What no dictionary could look up is refused as such
  match name with
  | .text t =>
    match Dialect.ofName? t with
    | some dialect => .ok dialect
    | none => .error (.unsupportedDatabase "get_dialect" t)
  | name =>
    match name.unhashable? with
    | some typeName => .error (.unhashable typeName)
    | none => .error (.unsupportedDatabase "get_dialect" name.toText)

namespace Sql

/-- The names under which no value can be handed over, since the function that takes the values has
an argument of that name. Each stands with its function. -/
def takenNames : List (String × String) :=
  [("self", "ValuesBase.values"), ("fn", "_generative.<locals>._generative")]

/-- Refuses values under a name that is taken. -/
def checkNames (values : List (Text × Value)) : Except Fault Unit :=
  match takenNames.find? fun (taken, _) => values.any fun (name, _) =>
      name == Text.ofString taken with
  | none => .ok ()
  | some (taken, function) => .error (.argumentTwice function taken)

/-- The columns of names, or the first name that is none's. -/
def lookUpColumns (table : Table) : List Text → Except Fault (List Column)
  | [] => .ok []
  | name :: rest =>
    match table.column? name with
    | none => .error (.unknownColumn name)
    | some column => (lookUpColumns table rest).map (column :: ·)

/-- The values that a request gives to columns; of two for one column the last counts. -/
def valuesInOrder (table : Table) (values : List (Text × Value)) : List (Column × Value) :=
  table.columns.filterMap fun column =>
    (values.reverse.find? fun (name, _) => name == Text.ofString column.name).map
      fun (_, value) => (column, value)

/-- The names of a request that are no column's, each once. -/
def unknownNames (table : Table) (values : List (Text × Value)) : List Text :=
  (values.map (·.1)).eraseDups.filter fun name => (table.column? name).isNone

/-- The upsert of values by column name that updates the named columns. -/
def Upsert.ofNames (dialect : Dialect) (table : Table) (values : List (Text × Value))
    (updates : List Text) : Except Fault Upsert := do
  checkNames values
  let columns ← lookUpColumns table updates
  if columns.isEmpty then .error (.emptyUpdate dialect)
  else match unknownNames table values with
    | [] =>
      .ok ⟨table, valuesInOrder table values,
        table.columns.filter fun column => columns.any (·.name == column.name)⟩
    | names => .error (.unknownValueColumns names)

/-- The condition that a block is no template. -/
def nonTemplate (dialect : Dialect) (table : Table) (name : Text) : Except Fault Expr :=
  -- MySQL compares the stored text with a pattern, PostgreSQL looks into the document, and SQLite
  -- has no condition for it
  match dialect, table.column? name with
  | _, none => .error (.unknownColumn name)
  | .mysql, some column =>
    .ok (.like (.column table column.name)
      ⟨name ++ "_1", .varchar, .text "%\"isTemplate\":false%"⟩)
  | .postgres, some column =>
    .ok (.memberIs (.column table column.name) ⟨"param_1", .text, .text "isTemplate"⟩
      ⟨"param_2", .varchar, .text "false"⟩)
  | .sqlite, some _ =>
    .error (.unsupportedDatabase "non_template_filter" (Text.ofString dialect.name))

end Sql

end Tenancy
