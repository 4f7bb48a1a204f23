import Tenancy.Database.Canned
import Tenancy.Proofs.Store.Writing

/-!
# Attempts to write

The three operations that write, over an embedded database that may fail at any stage of them. An
attempt either fails and leaves the tables as they are, or its write is what the table of workspaces
takes.
-/
namespace Tenancy

/-- An embedded database that fails where it is told to. -/
structure FaultyDatabase where
  database : Database
  failure : Option (Stage × Fault)

namespace FaultyDatabase

/-- The failure at a stage, if there is one. -/
def failureAt? (stage : Stage) (faulty : FaultyDatabase) : Option Fault :=
  match faulty.failure with
  | some (at_, fault) => if at_ = stage then some fault else none
  | none => none

instance : Engine FaultyDatabase where
  connect _ faulty :=
    match faulty.failureAt? .connect with
    | some fault => (.error fault, faulty)
    | none => (.ok (), faulty)
  execute dialect statement faulty :=
    match faulty.failureAt? .execute with
    | some fault => (.error fault, faulty)
    | none =>
      let (outcome, database) := faulty.database.run dialect statement
      (outcome.map fun result => { result with failure := faulty.failureAt? .fetch },
        { faulty with database })

end FaultyDatabase

namespace Store

open Sql

/-! ## One attempt -/

section
variable (tablePrefix : Text) (sendable : tablePrefix.isSendable = true)
  (rows : List WorkspaceRow)

/-- What an attempt may do to the tables: nothing where it fails, and else one write. -/
def Attempted (world : World FaultyDatabase) (written? : Option Written)
    (result : Except Fault Unit × World FaultyDatabase) : Prop :=
  (∃ fault, result.1 = .error fault ∧ result.2.database = world.database) ∨
    ∃ written, written? = some written ∧ written.Storable ∧ result.1 = .ok () ∧
      result.2.database =
        { world.database with database := holding tablePrefix (written.apply rows) }

include sendable

-- The statement of a write may fail, at any stage or because the database cannot keep what is
-- written
private theorem written_attempted (written : Written) (world : World FaultyDatabase)
    (state : world.database.database = holding tablePrefix rows) :
    Attempted tablePrefix rows world (some written) ((written.step tablePrefix).result world) := by
  have sqlite : ¬(embedded tablePrefix).dialect = .mysql := by
    intro eq
    cases eq
  rw [Written.step, writeWith, Step.result_bind, Step.result_connect]
  simp only [Engine.connect]
  -- A failure before the statement leaves the tables; a statement that fails is undone
  cases world.database.failureAt? .connect with
  | some fault => exact .inl ⟨fault, rfl, rfl⟩
  | none =>
    dsimp only
    rw [Step.result_bind, Step.result_execute]
    simp only [Engine.execute]
    cases world.database.failureAt? .execute with
    | some fault => exact .inl ⟨fault, rfl, rfl⟩
    | none =>
      simp only [Database.run, if_neg sqlite]
      cases ran : world.database.database.runUpsert (written.upsert tablePrefix) with
      | error fault => exact .inl ⟨fault, rfl, rfl⟩
      | ok after =>
        rw [state] at ran
        obtain ⟨storable, rfl⟩ := (runUpsert_ok_iff tablePrefix sendable rows written after).mp ran
        exact .inr ⟨written, rfl, storable, rfl, rfl⟩

/-- An attempt either fails and leaves the tables as they are, or its write is what the table of
workspaces takes. -/
theorem step_attempted (write : Write) (world : World FaultyDatabase)
    (state : world.database.database = holding tablePrefix rows) :
    Attempted tablePrefix rows world
      (write.written? (Token.ofSeed world.seeds.next) world.clock)
      ((write.step (embedded tablePrefix)).result world) := by
  have comesTo := step_comesTo tablePrefix world write
  cases comes : write.written? (Token.ofSeed world.seeds.next) world.clock with
  | none =>
    rw [comes] at comesTo
    exact .inl comesTo
  | some written =>
    rw [comes] at comesTo
    obtain ⟨before, same, outcome, database⟩ := comesTo
    have attempted := written_attempted tablePrefix sendable rows written before (same ▸ state)
    rw [Attempted, ← outcome, ← database, same] at attempted
    exact attempted

end

end Store

end Tenancy
