import Tenancy.Proofs.Store.Rows
import Tenancy.Proofs.Store.Stages

/-!
# Traces of steps

Everything that the store can be asked for is a step over a database of canned answers, which may
fail at one stage. A step comes to an outcome, to at most one record in the log and to calls of the
database. What is logged when is stated of these three.
-/
namespace Tenancy.Store

open Sql

/-! ## Requests -/

/-- What the store is asked for, with all that a caller gives before anything of that is checked. -/
inductive Ask where
  | write (operation : Operation)
  | workspace (id : Value)
  | count
  | access (user id : Value)
  | listing (user : Value)
  | query (user : Value)

/-- A request as a step of a store. A new token is all that it gives back. -/
def Ask.step {δ : Type} [Engine δ] (store : Store) : Ask → Step δ (Option Text)
  | .write operation => operation.step store
  | .workspace id => do
    let _ ← store.getWorkspace id
    return none
  | .count => do
    let _ ← store.getWorkspaceCount
    return none
  | .access user id => do
    let _ := store.hasAccess user id
    return none
  | .listing user => do
    let _ ← store.getUserWorkspaces user
    return none
  | .query user => do
    let _ ← Step.ofExcept (store.listingQuery user)
    return none

/-- A failure that a database is to report at a stage. -/
structure Injected where
  stage : Stage
  kind : Text
  message : Text

def Injected.fault (injected : Injected) : Fault := .database injected.kind injected.message

/-- A world whose database is to answer with rows, and to fail if it is told to. -/
def canned (rows : List (List Value)) (injected : Option Injected) (world : World CannedDatabase) :
    World CannedDatabase :=
  { world with
    database :=
      { rows
        failure := injected.map fun failure => (failure.stage, failure.fault)
        calls := world.database.calls } }

/-- What a step comes to: its outcome, the record that it adds to the log if it does, and the calls
of the database that it adds, the last one first. -/
structure Trace (α : Type) where
  outcome : Except Fault α
  record? : Option LogRecord
  calls : List Call

/-- Whether a step comes to something. -/
structure Leaves {α : Type} (step : Step CannedDatabase α) (world : World CannedDatabase)
    (trace : Trace α) : Prop where
  outcome : (step.result world).1 = trace.outcome
  log : (step.result world).2.log = trace.record?.toList ++ world.log
  database : (step.result world).2.database =
    { world.database with calls := trace.calls ++ world.database.calls }

def isConnection : Call → Bool
  | .connection _ => true
  | .statement _ _ => false

/-- Whether a row holds an entry of a listing. -/
def isGood (row : List Value) : Prop := ∃ entry, UserWorkspace.IsHeldBy (.tuple row) entry

/-- Whether a failure at a stage is reached by a request that has called the database. Results of
writes are not read, and single rows are read up to the second. -/
def Ask.Reaches (rows : List (List Value)) (calls : List Call) (ask : Ask) : Stage → Prop
  | .connect => ∃ call ∈ calls, isConnection call = true
  | .execute => ∃ call ∈ calls, isConnection call = false
  | .fetch => (∃ call ∈ calls, isConnection call = false) ∧ match ask with
    | .workspace _ => rows.length ≤ 1
    | .count => rows.length ≤ 1
    | .listing _ => ∀ row ∈ rows, isGood row
    | _ => False

/-- Whether a request has to leave an error in the log. -/
def Ask.LogsError (dialect : Dialect) (rows : List (List Value)) (injected : Option Injected) :
    Ask → Prop
  | .count => injected.isSome = true ∨ rows.length ≠ 1
  | .listing _ => dialect ≠ .sqlite ∧ ((∃ failure ∈ injected, failure.stage = .execute) ∨
      (∀ failure ∈ injected, failure.stage = .fetch) ∧ ∃ row ∈ rows, ¬isGood row)
  | .workspace _ => injected = none ∧ ∃ id token settings modifiedBy updateAt cause,
      rows = [[id, token, settings, modifiedBy, updateAt]] ∧
        readSettings settings = .error (.unreadable (.malformed cause))
  | _ => False

/-- What a step may come to: an error in the log if it has to leave one, a message about a new token
if there is one, at most one connection and one statement, and a failure that is reached passed on
as it is. -/
structure Trace.IsExact (dialect : Dialect) (rows : List (List Value))
    (injected : Option Injected) (ask : Ask) (trace : Trace (Option Text)) : Prop where
  error : (∃ record ∈ trace.record?, record.level = .error) ↔ ask.LogsError dialect rows injected
  info : (∃ record ∈ trace.record?, record.level = .info) ↔
    ∃ token, trace.outcome = .ok (some token)
  named : ∀ record ∈ trace.record?, record.context.find? (·.1 = "db_type") =
    some ("db_type", .text (Text.ofString dialect.name))
  connections : (trace.calls.filter isConnection).length ≤ 1
  statements : (trace.calls.filter (!isConnection ·)).length ≤ 1
  raised : ∀ failure ∈ injected, ask.Reaches rows trace.calls failure.stage →
    trace.outcome = .error failure.fault

/-! ## Traces -/

/-- A world whose database has been called besides. -/
def called (calls : List Call) (world : World CannedDatabase) : World CannedDatabase :=
  { world with database := { world.database with calls := calls ++ world.database.calls } }

section
variable {α : Type}

theorem leaves_of_result {step : Step CannedDatabase α} {world : World CannedDatabase}
    {outcome : Except Fault α} {record? : Option LogRecord} {calls : List Call}
    (ran : step.result world =
      (outcome, { called calls world with log := record?.toList ++ world.log })) :
    Leaves step world ⟨outcome, record?, calls⟩ where
  outcome := congrArg Prod.fst ran
  log := congrArg (fun result => result.2.log) ran
  database := congrArg (fun result => result.2.database) ran

/-- The trace of a step whose result is not given back. -/
def Trace.withoutResult (trace : Trace α) : Trace (Option Text) :=
  { trace with outcome := trace.outcome.map fun _ => none }

theorem Leaves.withoutResult {step : Step CannedDatabase α} {world : World CannedDatabase}
    {trace : Trace α} (leaves : Leaves step world trace) :
    Leaves (do
      let _ ← step
      return none) world trace.withoutResult := by
  obtain ⟨outcome, log, database⟩ := leaves
  have ran : (do
      let _ ← step
      return none : Step CannedDatabase (Option Text)).result world =
        ((step.result world).1.map fun _ => none, (step.result world).2) := by
    rw [Step.result_bind]
    rcases step.result world with ⟨_ | _, after⟩ <;> rfl
  constructor
  · rw [ran, outcome]
    rfl
  · rw [ran]
    exact log
  · rw [ran]
    exact database

/-- The record of an outcome that is a failure of the database. -/
def failureRecord? (store : Store) (message : Text) (outcome : Except Fault α) :
    Option LogRecord :=
  match outcome with
  | .ok _ => none
  | .error fault => if fault.isFromDatabase then some (store.failureRecord message fault) else none

theorem failureRecord?_isSome (store : Store) (message : Text) (outcome : Except Fault α) :
    (failureRecord? store message outcome).isSome = true ↔
      ∃ fault, outcome = .error fault ∧ fault.isFromDatabase = true := by
  cases outcome with
  | ok a => simp [failureRecord?]
  | error fault =>
    cases database : fault.isFromDatabase <;> simp [failureRecord?, database]

theorem failureRecord?_eq {store : Store} {message : Text} {outcome : Except Fault α}
    {record : LogRecord} (member : record ∈ failureRecord? store message outcome) :
    record.level = .error ∧ record.context = store.context := by
  cases outcome with
  | ok a => cases member
  | error fault =>
    rw [failureRecord?, Option.mem_def] at member
    split at member
    · rw [← Option.some.inj member]
      exact ⟨rfl, rfl⟩
    · cases member

theorem result_logFailure (store : Store) (message : Text) (step : Step CannedDatabase α)
    (world : World CannedDatabase) :
    (store.logFailure message step).result world = ((step.result world).1,
      { (step.result world).2 with
        log := (failureRecord? store message (step.result world).1).toList ++
          (step.result world).2.log }) := by
  rw [logFailure, Step.result_tryCatch]
  rcases step.result world with ⟨_ | a, after⟩
  next fault =>
    dsimp only [failureRecord?]
    cases fault.isFromDatabase <;> rfl
  next => rfl

/-- A failure of the database is logged and passed on. -/
theorem Leaves.logFailure {step : Step CannedDatabase α} {world : World CannedDatabase}
    {outcome : Except Fault α} {calls : List Call} (store : Store) (message : Text)
    (leaves : Leaves step world ⟨outcome, none, calls⟩) :
    Leaves (store.logFailure message step) world
      ⟨outcome, failureRecord? store message outcome, calls⟩ := by
  obtain ⟨same, log, database⟩ := leaves
  constructor <;> rw [result_logFailure]
  · exact same
  · dsimp only
    rw [same, log]
    rfl
  · exact database

/-- A step that gives no token and logs errors only is as it has to be if it logs one when it has
to. -/
theorem isExact_withoutResult (dialect : Dialect) (rows : List (List Value))
    (injected : Option Injected) (ask : Ask) (trace : Trace α)
    (level : ∀ record ∈ trace.record?, record.level = .error)
    (named : ∀ record ∈ trace.record?, record.context.find? (·.1 = "db_type") =
      some ("db_type", .text (Text.ofString dialect.name)))
    (logged : trace.record?.isSome = true ↔ ask.LogsError dialect rows injected)
    (few : (trace.calls.filter isConnection).length ≤ 1 ∧
      (trace.calls.filter (!isConnection ·)).length ≤ 1)
    (raised : ∀ failure ∈ injected, ask.Reaches rows trace.calls failure.stage →
      trace.outcome = .error failure.fault) :
    trace.withoutResult.IsExact dialect rows injected ask where
  error := by
    rw [← logged, Option.isSome_iff_exists]
    exact exists_congr fun record => and_iff_left_of_imp (level record)
  info := by
    constructor
    · rintro ⟨record, member, info⟩
      rw [level record member] at info
      cases info
    · rintro ⟨token, given⟩
      obtain ⟨_, _, other⟩ := (map_ok_iff _ _ _).mp given
      cases other
  named := named
  connections := few.1
  statements := few.2
  raised := by
    intro failure member reached
    rw [Trace.withoutResult, raised failure member reached]
    rfl

/-- A step that reaches nothing is as it has to be unless it has to log an error. -/
theorem isExact_silent (dialect : Dialect) (rows : List (List Value)) (injected : Option Injected)
    (ask : Ask) (outcome : Except Fault α) (quiet : ¬ask.LogsError dialect rows injected) :
    (Trace.withoutResult ⟨outcome, none, []⟩).IsExact dialect rows injected ask := by
  refine isExact_withoutResult _ _ _ _ _ (by simp) (by simp) (by simpa using quiet) (by simp) ?_
  -- Without a call no failure is reached
  rintro ⟨stage, kind, message⟩ - reached
  cases stage <;> simp [Ask.Reaches] at reached

end

/-! ## Reading -/

def statementCall (dialect : Dialect) (statement : Statement) : Call :=
  .statement (oneLine (render dialect statement)) statement.bindings

section
variable {α β : Type} (dialect : Dialect) (rows : List (List Value)) (injected : Option Injected)
  (world : World CannedDatabase) (statement : Statement)

theorem result_connect_canned (checkout : Checkout) :
    (Step.connect checkout).result (canned rows injected world) =
      (match injected with
        | some ⟨.connect, kind, message⟩ => .error (.database kind message)
        | _ => .ok (),
        called [.connection checkout] (canned rows injected world)) := by
  rw [Step.result_connect]
  rcases injected with _ | ⟨_ | _ | _, kind, message⟩ <;> rfl

theorem result_execute_canned (calls : List Call) :
    (Step.execute dialect statement).result (called calls (canned rows injected world)) =
      (match injected with
        | some ⟨.execute, kind, message⟩ => .error (.database kind message)
        | some ⟨.fetch, kind, message⟩ => .ok ⟨rows, some (.database kind message)⟩
        | _ => .ok ⟨rows, none⟩,
        called (statementCall dialect statement :: calls) (canned rows injected world)) := by
  rw [Step.result_execute]
  rcases injected with _ | ⟨_ | _ | _, kind, message⟩ <;> rfl

/-- What reading a single row comes to, unless what is done with it fails. -/
def readOutcome (read : ResultSet → Except Fault β) (rows : List (List Value)) :
    Option Injected → Except Fault β
  | some ⟨.connect, kind, message⟩ => .error (.database kind message)
  | some ⟨.execute, kind, message⟩ => .error (.database kind message)
  | some ⟨.fetch, kind, message⟩ => read ⟨rows, some (.database kind message)⟩
  | none => read ⟨rows, none⟩

/-- The calls of a request that reads, the last one first. -/
def readCalls (dialect : Dialect) (statement : Statement) : Option Injected → List Call
  | some ⟨.connect, _, _⟩ => [.connection .reading]
  | _ => [statementCall dialect statement, .connection .reading]

theorem result_single (read : ResultSet → Except Fault β) (next : β → Step CannedDatabase α) :
    (do
      Step.connect .reading
      let result ← Step.execute dialect statement
      let b ← Step.ofExcept (read result)
      next b).result (canned rows injected world) =
        match readOutcome read rows injected with
        | .error fault => (.error fault,
          called (readCalls dialect statement injected) (canned rows injected world))
        | .ok b =>
          (next b).result (called (readCalls dialect statement injected)
            (canned rows injected world)) := by
  rw [Step.result_bind, result_connect_canned]
  rcases injected with _ | ⟨_ | _ | _, kind, message⟩
  case some.connect => rfl
  all_goals
    dsimp only
    rw [Step.result_bind, result_execute_canned]
  case some.execute => rfl
  all_goals
    dsimp only [readOutcome]
    rw [Step.result_bind, Step.result_ofExcept]
  case none => cases read ⟨rows, none⟩ <;> rfl
  case some.fetch => cases read ⟨rows, some (.database kind message)⟩ <;> rfl

theorem readCalls_few :
    ((readCalls dialect statement injected).filter isConnection).length ≤ 1 ∧
      ((readCalls dialect statement injected).filter (!isConnection ·)).length ≤ 1 := by
  rcases injected with _ | ⟨_ | _ | _, kind, message⟩
  case some.connect => exact ⟨Nat.le_refl 1, Nat.zero_le 1⟩
  all_goals exact ⟨Nat.le_refl 1, Nat.le_refl 1⟩

/-- A failure that is reached ends the reading of a single row. -/
theorem readOutcome_raised (ask : Ask) (read : ResultSet → Except Fault β)
    (single : ask.Reaches rows (readCalls dialect statement injected) .fetch →
      ∀ fault, read ⟨rows, some fault⟩ = .error fault) :
    ∀ failure ∈ injected, ask.Reaches rows (readCalls dialect statement injected) failure.stage →
      readOutcome read rows injected = .error failure.fault := by
  rintro ⟨stage, kind, message⟩ ⟨⟩ reached
  cases stage with
  | connect => rfl
  | execute => rfl
  | fetch => exact single reached _

end

end Tenancy.Store
