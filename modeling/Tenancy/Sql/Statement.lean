import Tenancy.Sql.Dialect
import Tenancy.Sql.Schema
import Tenancy.Value

/-!
# Statements

The store issues statements of two shapes: an insert that updates the row of the same key if there
is one, and a query. A statement is a tree; texts and numbers enter it as named parameters only, so
that its text never depends on them.
-/
namespace Tenancy.Sql

/-- The type that a parameter is converted to where a database asks for it. -/
inductive ParameterType where
  | varchar
  | text
  | integer
  | bigint
  /-- The database finds the type out. -/
  | untyped
  deriving DecidableEq, Repr

/-- Texts are passed to columns without regard to their length. -/
def ParameterType.ofColumn : ColumnType → ParameterType
  | .varchar _ => .varchar
  | .text => .varchar
  | .bigint => .bigint

/-- The type of a value that is compared with a column of texts: an integer has one by its size, and
what has none of its own is passed as a text. -/
def ParameterType.ofValue : Value → ParameterType
  | .int n => if n.natAbs < 2 ^ 31 then .integer else .bigint
  | .float _ => .untyped
  | .octets _ => .untyped
  | _ => .varchar

/-- A named parameter. -/
structure Parameter where
  name : Text
  type : ParameterType
  value : Value

def Parameter.ofColumn : Column × Value → Parameter
  | (column, value) => ⟨Text.ofString column.name, .ofColumn column.type, value⟩

/-- An expression over the rows of a query. -/
inductive Expr where
  | column (table : Table) (name : String)
  | parameter (p : Parameter)
  /-- The value of an expression, or the parameter's where that is null. -/
  | coalesce (e : Expr) (absent : Parameter)
  /-- The number of rows in a group. -/
  | countRows
  /-- The number of rows of a group in which an expression is not null. -/
  | count (e : Expr)
  | equals (left right : Expr)
  | isNull (e : Expr)
  /-- A truth value that is part of the text. -/
  | truth (b : Bool)
  | and (left right : Expr)
  /-- A text matches a pattern. -/
  | like (e : Expr) (pattern : Parameter)
  /-- A member of a document stored as text is, as text, a given one. -/
  | memberIs (document : Expr) (member : Parameter) (value : Parameter)

/-- The rows that a query starts from. -/
inductive Source where
  | table (table : Table)
  /-- Every row of the source, with each row of the table that fits it, or else with nulls. -/
  | leftJoin (source : Source) (table : Table) (condition : Expr)
  /-- Every row of the source with each row of the table that fits it. -/
  | join (source : Source) (table : Table) (condition : Expr)

/-- A query. Rows that agree on the grouping expressions form one group; without grouping
expressions, a query that counts has one group. -/
structure Query where
  /-- The expressions shown, with the labels that some have. -/
  outputs : List (Expr × Option Text)
  source : Source
  condition : Option Expr
  groupBy : List Expr

def Query.all (table : Table) : Query where
  outputs := table.columns.map fun column => (.column table column.name, none)
  source := .table table
  condition := none
  groupBy := []

/-- An insert that updates the row of the same key, if there is one, from the inserted values.
Both lists follow the order of the table's columns. -/
structure Upsert where
  table : Table
  values : List (Column × Value)
  updates : List Column

/-- A statement. -/
inductive Statement where
  | upsert (upsert : Upsert)
  | query (query : Query)

namespace Expr

/-- The parameters of an expression, in the order of its text. -/
def parameters : Expr → List Parameter
  | .column _ _ => []
  | .parameter p => [p]
  | .coalesce e absent => e.parameters ++ [absent]
  | .countRows => []
  | .count e => e.parameters
  | .equals left right => left.parameters ++ right.parameters
  | .isNull e => e.parameters
  | .truth _ => []
  | .and left right => left.parameters ++ right.parameters
  | .like e pattern => e.parameters ++ [pattern]
  | .memberIs document member value => document.parameters ++ [member, value]

/-- The condition that a column of texts holds a value. -/
def holdsValue (column : Expr) (name : Text) : Value → Expr
  -- Nothing and the truth values have words of their own; any other value is a parameter
  | .null => .isNull column
  | .bool b => .equals column (.truth b)
  | value => .equals column (.parameter ⟨name, .ofValue value, value⟩)

/-- Whether an expression counts rows. -/
def isAggregate : Expr → Bool
  | .countRows => true
  | .count _ => true
  | _ => false

end Expr

/-- The parameters of a source, in the order of its text. -/
def Source.parameters : Source → List Parameter
  | .table _ => []
  | .leftJoin source _ condition => source.parameters ++ condition.parameters
  | .join source _ condition => source.parameters ++ condition.parameters

/-- The tables of a source, from left to right. -/
def Source.tables : Source → List Table
  | .table t => [t]
  | .leftJoin source t _ => source.tables ++ [t]
  | .join source t _ => source.tables ++ [t]

/-- The parameters of a query, in the order of its text. -/
def Query.parameters (query : Query) : List Parameter :=
  query.outputs.flatMap (·.1.parameters) ++ query.source.parameters
    ++ (query.condition.elim [] Expr.parameters) ++ query.groupBy.flatMap Expr.parameters

/-- The parameters of an upsert, in the order of its text. -/
def Upsert.parameters (upsert : Upsert) : List Parameter :=
  upsert.values.map .ofColumn

/-- The parameters of a statement, in the order of its text. -/
def Statement.parameters : Statement → List Parameter
  | .upsert u => u.parameters
  | .query q => q.parameters

/-- Names and values of parameters, in the order of the names. -/
def bindings (parameters : List Parameter) : List (Text × Value) :=
  (parameters.map fun p => (p.name, p.value)).mergeSort fun a b => Text.le a.1 b.1

/-- Names and values of the parameters of a statement, in the order of the names. -/
def Statement.bindings (statement : Statement) : List (Text × Value) :=
  Sql.bindings statement.parameters

end Tenancy.Sql
