import Tenancy.Sql.Render
import Tenancy.Store.World

/-!
# A database of canned answers

It answers every statement with the same rows, fails where it is told to, and remembers what it
was asked for. It stands in for a database server where the exact statements are to be seen.
-/
namespace Tenancy

/-- Where a canned database fails. -/
inductive Stage where
  | connect
  | execute
  /-- Behind the last row. -/
  | fetch
  deriving DecidableEq, Repr

/-- What the store asks of a database. -/
inductive Call where
  | connection (checkout : Checkout)
  | statement (text : Text) (bindings : List (Text × Value))

/-- A database of canned answers. -/
structure CannedDatabase where
  rows : List (List Value) := []
  failure : Option (Stage × Fault) := none
  /-- What it was asked for, the last call first. -/
  calls : List Call := []

namespace CannedDatabase

/-- The failure at a stage, if there is one. -/
def failureAt? (stage : Stage) (database : CannedDatabase) : Option Fault :=
  match database.failure with
  | some (at_, fault) => if at_ = stage then some fault else none
  | none => none

/-- The outcome of a stage that gives a result unless the database fails there. -/
def outcome {α : Type} (stage : Stage) (result : α) (database : CannedDatabase) :
    Except Fault α :=
  match database.failureAt? stage with
  | some fault => .error fault
  | none => .ok result

def record (call : Call) (database : CannedDatabase) : CannedDatabase :=
  { database with calls := call :: database.calls }

instance : Engine CannedDatabase where
  connect checkout database :=
    (database.outcome .connect (), database.record (.connection checkout))
  execute dialect statement database :=
    (database.outcome .execute ⟨database.rows, database.failureAt? .fetch⟩,
      database.record (.statement (Sql.oneLine (Sql.render dialect statement)) statement.bindings))

end CannedDatabase

end Tenancy
