import Tenancy.Database.Basic
import Tenancy.Database.Like
import Tenancy.Sql.Statement

/-!
# Running queries

A query is evaluated by its meaning: the rows of its source are combined from left to right, the
condition keeps some of them, the grouping expressions divide them, and every group gives one row
of the result. Conditions have three outcomes, of which null is neither.
-/
namespace Tenancy.Database

open Sql

/-- A row of a source: for each of its tables a row of it, or nulls. -/
abbrev Frame := List (Table × Row)

/-- The cell of a column. -/
def cellAt (frame : Frame) (table : Table) (name : String) : Cell :=
  match frame.find? fun (given, _) => given.name == table.name with
  | none => .null
  | some (_, row) =>
    match (table.columns.zip row).find? fun (column, _) => column.name == name with
    | some (_, cell) => cell
    | none => .null

/-- The cell that a parameter is passed as; those that cannot be passed are refused before. -/
def parameterCell (p : Parameter) : Cell :=
  match Cell.ofValue 0 p.value with
  | .ok cell => cell
  | .error _ => .null

/-- The outcome of a condition as a cell. -/
def ofBool (b : Bool) : Cell := .int (if b then 1 else 0)

/-- Whether a cell is the outcome of a condition that holds. -/
def holds (cell : Cell) : Bool := cell == .int 1

/-- The text of a cell for a pattern; matching stops at the first null character. -/
def patternText (cell : Cell) : Text :=
  let t := match cell.asText with
    | .text t => t
    | .blob data => ((Utf8.decode data).toOption).getD []
    | _ => []
  t.takeWhile (·.val != 0)

/-- Whether an expression is a column of texts, which makes a text of a number beside it. -/
def isTextColumn : Expr → Bool
  | .column table name =>
    (table.columns.find? fun column => column.name == name).elim false (·.type != .bigint)
  | _ => false

def equal (textual : Bool) (a b : Cell) : Cell :=
  if a = .null ∨ b = .null then .null
  else if textual then ofBool (a.asText.same b.asText)
  else ofBool (a.same b)

def conjunction (a b : Cell) : Cell :=
  if holds a && holds b then ofBool true
  else if a = ofBool false ∨ b = ofBool false then ofBool false
  else .null

/-- The cell of an expression in a row. -/
def evaluate (frame : Frame) : Expr → Cell
  -- Counting is no matter of one row, and documents inside texts are closed to the embedded
  -- database
  | .column table name => cellAt frame table name
  | .parameter p => parameterCell p
  | .coalesce e absent =>
    let cell := evaluate frame e
    if cell = .null then parameterCell absent else cell
  | .equals left right =>
    equal (isTextColumn left || isTextColumn right) (evaluate frame left) (evaluate frame right)
  | .isNull e => ofBool (evaluate frame e == .null)
  | .truth b => ofBool b
  | .and left right => conjunction (evaluate frame left) (evaluate frame right)
  | .like e pattern =>
    let cell := evaluate frame e
    let pattern := parameterCell pattern
    if cell = .null ∨ pattern = .null then .null
    else ofBool (Text.isLike (patternText pattern) (patternText cell))
  | .countRows => .null
  | .count _ => .null
  | .memberIs _ _ _ => .null

/-- The rows of a source. -/
def frames (database : Database) : Source → Except Fault (List Frame)
  | .table table => do
    let stored ← database.find table.name
    .ok (stored.rows.map fun row => [(table, row)])
  | .leftJoin source table condition => do
    let left ← frames database source
    let stored ← database.find table.name
    .ok (left.flatMap fun frame =>
      match (stored.rows.map fun row => frame ++ [(table, row)]).filter
          fun joined => holds (evaluate joined condition) with
      | [] => [frame ++ [(table, table.columns.map fun _ => .null)]]
      | joined => joined)
  | .join source table condition => do
    let left ← frames database source
    let stored ← database.find table.name
    .ok (left.flatMap fun frame =>
      (stored.rows.map fun row => frame ++ [(table, row)]).filter
        fun joined => holds (evaluate joined condition))

/-- Place by place, the order of cells. -/
def keysLe : List Cell → List Cell → Bool
  | [], _ => true
  | _ :: _, [] => false
  | a :: s, b :: t => if a.same b then keysLe s t else a.le b

/-- Puts a row into the group of its key, or makes a new group of it. -/
def addToGroup (key : List Cell) (frame : Frame) :
    List (List Cell × List Frame) → List (List Cell × List Frame)
  | [] => [(key, [frame])]
  | (k, members) :: rest =>
    if k = key then (k, members ++ [frame]) :: rest
    else (k, members) :: addToGroup key frame rest

/-- The groups of rows, in the order of their keys. -/
def groups (groupBy : List Expr) (rows : List Frame) : List (List Frame) :=
  let grouped := rows.foldl (fun grouped frame =>
    addToGroup (groupBy.map (evaluate frame)) frame grouped) []
  (grouped.mergeSort fun a b => keysLe a.1 b.1).map (·.2)

/-- The cell of an expression in a group: a number of its rows, or the cell of its first row. -/
def evaluateGroup (members : List Frame) : Expr → Cell
  | .countRows => .int members.length
  | .count e => .int (members.filter fun frame => evaluate frame e != .null).length
  | e => evaluate (members.headD []) e

/-- The rows of a query's result. -/
def select (database : Database) (query : Query) : Except Fault (List Row) := do
  let all ← frames database query.source
  let kept := match query.condition with
    | none => all
    | some condition => all.filter fun frame => holds (evaluate frame condition)
  let grouped :=
    if query.groupBy.isEmpty then
      if query.outputs.any (·.1.isAggregate) then [kept] else kept.map fun frame => [frame]
    else groups query.groupBy kept
  .ok (grouped.map fun members => query.outputs.map fun (e, _) => evaluateGroup members e)

/-- The rows of a table in the order of their keys. -/
def ordered (database : Database) (table : Table) : Except Fault (List Row) := do
  checkText (renderQuery .sqlite (.all table))
  let stored ← database.find table.name
  .ok (stored.rows.mergeSort fun a b => keysLe (table.keyOf a) (table.keyOf b))

end Tenancy.Database
