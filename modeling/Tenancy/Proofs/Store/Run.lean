import Tenancy.Proofs.Store.Attempt
import Tenancy.Proofs.Store.History

/-!
# The table of workspaces after a run

After any sequence of attempts to write, some of which may fail, the table of workspaces is
determined by the writes that did not fail. The invariant is that the tables hold the rows that
these writes make one after the other; every attempt keeps it.
-/
namespace Tenancy.Store

/-- An operation that writes, with what the clock shows and what fails in the database meanwhile. A
failing database undoes the statement. -/
structure Attempt where
  write : Write
  clock : Value
  failure : Option (Stage × Fault)

/-- An operation that succeeded, with the token that it found minted and with the time. -/
structure Success where
  write : Write
  minted : Text
  clock : Value

/-- What an operation that succeeded has written. -/
def Success.written? (success : Success) : Option Written :=
  success.write.written? success.minted success.clock

/-- What attempts have made: the world that they leave, and those that succeeded, in their order. -/
structure Run where
  world : World FaultyDatabase
  successes : List Success

namespace Run

/-- The world that an attempt finds. -/
def before (run : Run) (attempt : Attempt) : World FaultyDatabase :=
  { run.world with
    clock := attempt.clock
    database := { run.world.database with failure := attempt.failure } }

/-- One more attempt. -/
def step (tablePrefix : Text) (run : Run) (attempt : Attempt) : Run :=
  match (attempt.write.step (embedded tablePrefix)).result (run.before attempt) with
  | (.ok (), world) =>
    ⟨world, run.successes ++
      [⟨attempt.write, Token.ofSeed run.world.seeds.next, attempt.clock⟩]⟩
  | (.error _, world) => ⟨world, run.successes⟩

/-- Attempts in a row. -/
def after (tablePrefix : Text) (start : World FaultyDatabase) (attempts : List Attempt) : Run :=
  attempts.foldl (step tablePrefix) ⟨start, []⟩

/-- The tables of a run. -/
def database (run : Run) : Database := run.world.database.database

/-- The invariant: every operation that succeeded has written something that the database can keep,
and the tables hold the rows of what they have written. -/
structure Holds (tablePrefix : Text) (run : Run) (history : List Written) : Prop where
  written : history.map some = run.successes.map Success.written?
  storable : ∀ written ∈ history, written.Storable
  database : run.database = holding tablePrefix (rowsOf history)

section
variable (tablePrefix : Text) (sendable : tablePrefix.isSendable = true)
include sendable

/-- An attempt keeps the invariant, whether it succeeds or fails. -/
theorem step_holds (run : Run) (history : List Written) (holds : Holds tablePrefix run history)
    (attempt : Attempt) : ∃ later, Holds tablePrefix (run.step tablePrefix attempt) later := by
  have attempted := step_attempted tablePrefix sendable (rowsOf history) attempt.write
    (run.before attempt) holds.database
  rw [step]
  rcases attempted with ⟨fault, failed, kept⟩ | ⟨written, given, storable, success, kept⟩
  · -- A failed attempt counts for nothing: the same history explains the tables
    refine ⟨history, ?_⟩
    split
    next world eq =>
      rw [eq] at failed
      cases failed
    next world eq =>
      rw [eq] at kept
      exact ⟨holds.written, holds.storable,
        (congrArg FaultyDatabase.database kept).trans holds.database⟩
  · -- A write that succeeded is the last of the history
    refine ⟨history ++ [written], ?_⟩
    split
    next world eq =>
      rw [eq] at kept
      refine ⟨?_, ?_, ?_⟩
      · rw [List.map_append, List.map_append, holds.written]
        exact congrArg (run.successes.map Success.written? ++ [·]) given.symm
      · intro other member
        rcases List.mem_append.mp member with old | new
        · exact holds.storable other old
        · rwa [List.mem_singleton.mp new]
      · rw [rowsOf_concat]
        exact congrArg FaultyDatabase.database kept
    next world eq =>
      rw [eq] at success
      cases success

/-- Attempts keep the invariant. -/
theorem after_holds (start : World FaultyDatabase)
    (fresh : start.database.database = holding tablePrefix []) (attempts : List Attempt) :
    ∃ history, Holds tablePrefix (after tablePrefix start attempts) history := by
  induction attempts using List.reverseRecOn with
  | nil => exact ⟨[], rfl, by simp, fresh⟩
  | append_singleton attempts attempt ih =>
    obtain ⟨history, holds⟩ := ih
    rw [after, List.foldl_append]
    exact step_holds tablePrefix sendable _ history holds attempt

end

end Run

/-! ## What is read after a run -/

/-- What the store gives for an id after a history: an id without octets cannot be asked for, and
another one is either that of a row or unknown. -/
def lookup (history : List Written) (id : Text) : Except Fault Workspace :=
  match id.encodeFault?, row? history id with
  | some fault, _ => .error (.unencodable fault)
  | none, none => .error (.workspaceNotFound id)
  | none, some row => .ok row.workspace

/-- The table of workspaces after any attempts to write, some of which may fail, and what is read
from it. Every operation that succeeded has written something. Each workspace that was written has
one row, and there is no other row: with the last token that was written as such or else the one
minted for the first settings, with the last settings, and with author and time of the last write.
The store counts these rows and finds the workspace of each; a workspace without a row is unknown,
unless its id has no octets and cannot be asked for. -/
theorem table_of_history (tablePrefix : Text) (created : Database)
    (creation : Database.create .empty (Schema.withPrefix tablePrefix).tables = .ok created)
    (start : World FaultyDatabase) (fresh : start.database.database = created)
    (attempts : List Attempt) :
    let run := Run.after tablePrefix start attempts
    ∃ history rows, history.map some = run.successes.map Success.written? ∧
      run.database = holding tablePrefix rows ∧
      rows.map some = (idsOf history).map (row? history) ∧ (rows.map (·.id)).Nodup ∧
      ∀ world : World Database, world.database = run.database →
        (embedded tablePrefix).getWorkspaceCount.result world =
          (.ok ((idsOf history).length : Int), world) ∧
        ∀ id, ((embedded tablePrefix).getWorkspace (.text id)).result world =
            (lookup history id, world) ∧
          (id.encodeFault?.isSome → row? history id = none) := by
  intro run
  obtain ⟨sendable, rfl⟩ := create_withPrefix tablePrefix created creation
  obtain ⟨history, holds⟩ := Run.after_holds tablePrefix sendable start fresh attempts
  refine ⟨history, rowsOf history, holds.written, holds.database, rowsOf_spec history,
    ids_rowsOf history ▸ nodup_idsOf history, fun world state => ?_⟩
  replace state := state.trans holds.database
  have count := getWorkspaceCount_result tablePrefix sendable (rowsOf history) world state
  rw [← List.length_map (·.id), ids_rowsOf] at count
  refine ⟨count, fun id => ⟨?_, fun refused => ?_⟩⟩
  · have rowsOfId := filter_rowsOf history id
    rw [lookup]
    cases refused : id.encodeFault? with
    | some fault =>
      exact getWorkspace_unencodable tablePrefix sendable _ world state id fault refused
    | none =>
      have encodable := (Text.encodeFault?_eq_none_iff id).mp refused
      cases row : row? history id with
      | none =>
        rw [row] at rowsOfId
        exact getWorkspace_notFound tablePrefix sendable _ world state id encodable rowsOfId
      | some found =>
        rw [row] at rowsOfId
        exact getWorkspace_found tablePrefix sendable _ world state id encodable found rowsOfId
  · -- An id without octets was never stored, so it has no row
    cases row : row? history id with
    | none => rfl
    | some found =>
      have encodable :=
        rowsOf_encodable history holds.storable found (mem_rowsOf history id found row)
      rw [← row?_id history id found row,
        (Text.encodeFault?_eq_none_iff found.id).mpr encodable.id] at refused
      cases refused

/-- The world of tables that have just been made. -/
def freshWorld (tablePrefix : Text) : World FaultyDatabase :=
  ⟨⟨[], 0⟩, .int 0, [], ⟨holding tablePrefix [], none⟩⟩

/-- Settings for a new workspace, a token that the database refuses, and a token. -/
def threeAttempts : List Attempt :=
  [⟨.settings { id := "a", settings := .dict [], modifiedBy := "b" }, .int 5, none⟩,
    ⟨.token { id := "a", signupToken := "t", modifiedBy := "c" }, .int 6,
      some (.execute, .noRow)⟩,
    ⟨.token { id := "a", signupToken := "t", modifiedBy := "d" }, .int 7, none⟩]

/-- Two of three attempts on one workspace leave its row. -/
theorem table_of_three_attempts :
    let run := Run.after "p_" (freshWorld "p_") threeAttempts
    Database.create .empty (Schema.withPrefix "p_").tables = .ok (holding "p_" []) ∧
      run.successes.length = 2 ∧
      ∃ history rows, history.map some = run.successes.map Success.written? ∧
        run.database = holding "p_" rows ∧
        rows.map some = (idsOf history).map (row? history) ∧ (rows.map (·.id)).Nodup ∧
        ∀ world : World Database, world.database = run.database →
          (embedded "p_").getWorkspaceCount.result world =
            (.ok ((idsOf history).length : Int), world) ∧
          ∀ id, ((embedded "p_").getWorkspace (.text id)).result world =
              (lookup history id, world) ∧
            (id.encodeFault?.isSome → row? history id = none) :=
  ⟨rfl, by decide +kernel,
    table_of_history "p_" (holding "p_" []) rfl (freshWorld "p_") rfl threeAttempts⟩

/-- Where there is no row at all, a lone surrogate is still not an unknown workspace. -/
theorem lone_surrogate_not_unknown :
    let run := Run.after "" (freshWorld "") []
    let world : World Database := ⟨⟨[], 0⟩, .int 0, [], run.database⟩
    Database.create .empty (Schema.withPrefix "").tables = .ok run.database ∧
      run.database = holding "" [] ∧
      (((embedded "").getWorkspace (.text [0xd800])).result world).1 ≠
        .error (.workspaceNotFound [0xd800]) := by
  refine ⟨rfl, rfl, fun unknown => ?_⟩
  have refused : (((embedded "").getWorkspace (.text [0xd800])).result
      (⟨⟨[], 0⟩, .int 0, [], holding "" []⟩ : World Database)).1 =
        .error (.unencodable ⟨0, [0xd800]⟩) := rfl
  cases refused.symm.trans unknown

end Tenancy.Store
