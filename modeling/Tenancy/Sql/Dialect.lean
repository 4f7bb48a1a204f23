import Tenancy.Text.Basic

/-!
# Database types

The three types of database that the store speaks to, and the names under which the configuration
knows them.
-/
namespace Tenancy

/-- A type of database. -/
inductive Dialect where
  | mysql
  | postgres
  | sqlite
  deriving DecidableEq, Repr

namespace Dialect

/-- The name of a type in the configuration, in messages and in log records. -/
def name : Dialect → String
  | .mysql => "mysql"
  | .postgres => "postgres"
  | .sqlite => "sqlite3"

/-- The display form of a type. -/
def display : Dialect → String
  | .mysql => "MySQLDialect()"
  | .postgres => "PostgresDialect()"
  | .sqlite => "SQLiteDialect()"

/-- The type of a name, which is matched exactly. -/
def ofName? (name : Text) : Option Dialect :=
  [Dialect.mysql, .postgres, .sqlite].find? fun dialect => Text.ofString dialect.name = name

end Dialect

end Tenancy
