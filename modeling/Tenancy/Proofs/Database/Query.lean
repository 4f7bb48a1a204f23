import Tenancy.Database.Embedded
import Tenancy.Proofs.Outcome
import Tenancy.Proofs.Sql.Sendable

/-!
# Results of queries

A query whose names can be sent and whose parameters can be passed gives the results over the rows
of its source. The cell of a column in a combined row is that of the row of its table.
-/
namespace Tenancy.Database

open Sql

/-- The rows of a source that a query keeps. -/
def kept (query : Query) (all : List Frame) : List Frame :=
  match query.condition with
  | none => all
  | some condition => all.filter fun frame => holds (evaluate frame condition)

/-- The groups of a query's rows. -/
def grouped (query : Query) (all : List Frame) : List (List Frame) :=
  if query.groupBy.isEmpty then
    if query.outputs.any (·.1.isAggregate) then [kept query all]
    else (kept query all).map fun frame => [frame]
  else groups query.groupBy (kept query all)

/-- The rows of a result over the rows of the source. -/
def results (query : Query) (all : List Frame) : List Row :=
  (grouped query all).map fun members => query.outputs.map fun (e, _) => evaluateGroup members e

theorem runQuery_eq (database : Database) (query : Query) (all : List Frame) (cells : List Cell)
    (names : ∀ name ∈ query.names, name.isSendable = true)
    (source : frames database query.source = .ok all)
    (bound : bind 1 (query.parameters.map (·.value)) = .ok cells) :
    database.runQuery query = .ok ((results query all).map fun row => row.map Cell.toValue) := by
  have text := (checkText_ok_iff _).mpr (isSendable_query query names)
  have selected : select database query = .ok (results query all) := by
    rw [select, source]
    rfl
  rw [runQuery, text, source, bound, selected]
  rfl

theorem runQuery_bind_error (database : Database) (query : Query) (all : List Frame) (fault : Fault)
    (names : ∀ name ∈ query.names, name.isSendable = true)
    (source : frames database query.source = .ok all)
    (refused : bind 1 (query.parameters.map (·.value)) = .error fault) :
    database.runQuery query = .error fault := by
  have text := (checkText_ok_iff _).mpr (isSendable_query query names)
  rw [runQuery, text, source, refused]
  rfl

/-! ## Cells -/

/-- The cell of a column in a row of its table. -/
def cellOf (table : Table) (row : Row) (name : String) : Cell :=
  ((table.columns.zip row).find? fun (column, _) => column.name == name).elim .null (·.2)

theorem cellAt_same (table : Table) (row : Row) (rest : Frame) (name : String) :
    cellAt ((table, row) :: rest) table name = cellOf table row name := by
  simp only [cellAt, cellOf, List.find?_cons, beq_self_eq_true]
  cases (table.columns.zip row).find? fun (column, _) => column.name == name <;> rfl

end Tenancy.Database
