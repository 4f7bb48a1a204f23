import Tenancy.Sql.Identifier
import Tenancy.Sql.Statement

/-!
# The text of statements

One renderer serves the three types of database. They differ in how names are quoted, how
parameters are marked, how an inner join is called and how an insert says that it updates.
-/
namespace Tenancy.Sql

def typeName : ColumnType → Text
  | .varchar length => "VARCHAR(" ++ Text.ofNat length ++ ")"
  | .text => "TEXT"
  | .bigint => "BIGINT"

def conversion : ParameterType → Text
  | .varchar => "::VARCHAR"
  | .text => "::TEXT"
  | .integer => "::INTEGER"
  | .bigint => "::BIGINT"
  | .untyped => []

/-- The words for a truth value; SQLite has numbers for them. -/
def truthWord (dialect : Dialect) (b : Bool) : Text :=
  match dialect with
  | .sqlite => if b then "1" else "0"
  | _ => if b then "true" else "false"

def placeholder (dialect : Dialect) (p : Parameter) : Text :=
  match dialect with
  | .mysql => "%s"
  | .postgres => "%(" ++ p.name ++ ")s" ++ conversion p.type
  | .sqlite => "?"

/-- The name of a column as a statement shows it. -/
def columnName (dialect : Dialect) (name : String) : Text :=
  identifier dialect (Text.ofString name)

def renderExpr (dialect : Dialect) : Expr → Text
  | .column table name => identifier dialect table.name ++ "." ++ columnName dialect name
  | .parameter p => placeholder dialect p
  | .coalesce e absent =>
    "coalesce(" ++ renderExpr dialect e ++ ", " ++ placeholder dialect absent ++ ")"
  | .countRows => "count(*)"
  | .count e => "count(" ++ renderExpr dialect e ++ ")"
  | .equals left right => renderExpr dialect left ++ " = " ++ renderExpr dialect right
  | .isNull e => renderExpr dialect e ++ " IS NULL"
  | .truth b => truthWord dialect b
  | .and left right => renderExpr dialect left ++ " AND " ++ renderExpr dialect right
  | .like e pattern => renderExpr dialect e ++ " LIKE " ++ placeholder dialect pattern
  | .memberIs document member value =>
    "(CAST(" ++ renderExpr dialect document ++ " AS JSON) ->> " ++ placeholder dialect member
      ++ ") = " ++ placeholder dialect value

def renderSource (dialect : Dialect) : Source → Text
  | .table table => identifier dialect table.name
  | .leftJoin source table condition =>
    renderSource dialect source ++ " LEFT OUTER JOIN " ++ identifier dialect table.name ++ " ON "
      ++ renderExpr dialect condition
  | .join source table condition =>
    let keyword : Text := match dialect with
      | .mysql => " INNER JOIN "
      | _ => " JOIN "
    renderSource dialect source ++ keyword ++ identifier dialect table.name ++ " ON "
      ++ renderExpr dialect condition

def renderOutput (dialect : Dialect) : Expr × Option Text → Text
  | (e, none) => renderExpr dialect e
  | (e, some label) => renderExpr dialect e ++ " AS " ++ identifier dialect label

def renderQuery (dialect : Dialect) (query : Query) : Text :=
  let condition : Text := match query.condition with
    | none => []
    | some e => " \nWHERE " ++ renderExpr dialect e
  let grouping : Text := match query.groupBy with
    | [] => []
    | groupBy => " GROUP BY " ++ Text.join ", " (groupBy.map (renderExpr dialect))
  "SELECT " ++ Text.join ", " (query.outputs.map (renderOutput dialect)) ++ " \nFROM "
    ++ renderSource dialect query.source ++ condition ++ grouping

/-- The columns and placeholders of an insert; without values the databases have words of their
own for a row of defaults. -/
def renderValues (dialect : Dialect) (values : List (Column × Value)) : Text :=
  match dialect, values with
  | .mysql, [] => "() VALUES ()"
  | _, [] => "DEFAULT VALUES"
  | _, values =>
    "(" ++ Text.join ", " (values.map fun (column, _) => columnName dialect column.name)
      ++ ") VALUES ("
      ++ Text.join ", " (values.map fun value => placeholder dialect (.ofColumn value)) ++ ")"

def renderInsert (dialect : Dialect) (table : Table) (values : List (Column × Value)) : Text :=
  "INSERT INTO " ++ identifier dialect table.name ++ " " ++ renderValues dialect values

/-- One assignment of an update: a column takes the value that was to be inserted. -/
def renderAssignment (dialect : Dialect) (column : Column) : Text :=
  let name := columnName dialect column.name
  match dialect with
  | .mysql => name ++ " = VALUES(" ++ name ++ ")"
  | _ => name ++ " = excluded." ++ name

/-- What an insert does where its key is there already. -/
def renderConflict (dialect : Dialect) (upsert : Upsert) : Text :=
  let assignments := Text.join ", " (upsert.updates.map (renderAssignment dialect))
  match dialect with
  | .mysql => "ON DUPLICATE KEY UPDATE " ++ assignments
  | _ =>
    "ON CONFLICT (" ++ Text.join ", " (upsert.table.key.map (columnName dialect ·.name))
      ++ ") DO UPDATE SET " ++ assignments

def renderUpsert (dialect : Dialect) (upsert : Upsert) : Text :=
  renderInsert dialect upsert.table upsert.values ++ " " ++ renderConflict dialect upsert

/-- The text of a statement. -/
def render (dialect : Dialect) : Statement → Text
  | .upsert upsert => renderUpsert dialect upsert
  | .query query => renderQuery dialect query

end Tenancy.Sql
