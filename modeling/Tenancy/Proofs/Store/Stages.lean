import Tenancy.Proofs.Store.Attempt

/-!
# The stages of a write

An operation that writes passes its stages one after the other, and the first stage that fails ends
it. The order differs from operation to operation. Every stage leaves a trace of its own: a seed
that is drawn, a call of the database, a record in the log. What an operation leaves are the traces
of the stages that it has come to, whatever else would have failed behind them.
-/
namespace Tenancy.Store

open Sql

/-! ## Courses of stages -/

section
variable {σ δ α β : Type} (fails : σ → Option Fault) (leaves : σ → World δ → World δ)

/-- The failure of an outcome, if it is one. -/
def faultOf {α : Type} : Except Fault α → Option Fault
  | .ok _ => none
  | .error fault => some fault

/-- The stages that are attempted: all up to the first that fails. -/
def attempted : List σ → List σ
  | [] => []
  | stage :: rest => if (fails stage).isSome then [stage] else stage :: attempted rest

/-- What stages come to, if they end in a result. -/
def course (stages : List σ) (a : α) (world : World δ) : Except Fault α × World δ :=
  (match stages.findSome? fails with
    | some fault => .error fault
    | none => .ok a,
    (attempted fails stages).foldl (fun world stage => leaves stage world) world)

theorem faultOf_eq_none_iff {α : Type} (outcome : Except Fault α) :
    faultOf outcome = none ↔ ∃ a, outcome = .ok a := by
  cases outcome <;> simp [faultOf]

theorem course_nil (a : α) (world : World δ) :
    (pure a : Step δ α).result world = course fails leaves [] a world :=
  rfl

/-- One more stage in front of others: what it leaves is there for them, and they run if it does not
fail. -/
theorem course_bind (stage : σ) (rest : List σ) (first : Step δ α) (next : α → Step δ β) (b : β)
    (world : World δ) (outcome : Except Fault α)
    (result : first.result world = (outcome, leaves stage world))
    (fault : fails stage = faultOf outcome)
    (others : ∀ a, outcome = .ok a → (next a).result (leaves stage world) =
      course fails leaves rest b (leaves stage world)) :
    (first >>= next).result world = course fails leaves (stage :: rest) b world := by
  cases outcome with
  | error reason =>
    rw [Step.result_bind_error _ _ _ _ _ result]
    simp [course, attempted, fault, faultOf]
  | ok a =>
    rw [Step.result_bind_ok _ _ _ _ _ result, others a rfl]
    simp [course, attempted, fault, faultOf]

theorem attempted_append (first second : List σ) :
    attempted fails (first ++ second) =
      match first.findSome? fails with
      | some _ => attempted fails first
      | none => first ++ attempted fails second := by
  induction first with
  | nil => rfl
  | cons stage rest ih =>
    rw [List.cons_append, attempted, attempted, List.findSome?_cons]
    cases fails stage with
    | some fault => rfl
    | none =>
      simp only [Option.isSome_none, Bool.false_eq_true, if_false, ih]
      cases rest.findSome? fails <;> rfl

theorem attempted_eq_self (stages : List σ) (none : stages.findSome? fails = none) :
    attempted fails stages = stages := by
  have whole := attempted_append fails stages []
  rw [List.append_nil, none] at whole
  exact whole.trans (List.append_nil stages)

theorem prefix_attempted (stages : List σ) : attempted fails stages <+: stages := by
  induction stages with
  | nil => exact List.prefix_rfl
  | cons stage rest ih =>
    rw [attempted]
    split
    · exact List.prefix_append [stage] rest
    · exact (List.prefix_cons_inj stage).mpr ih

/-- What comes to a stage has got past the stages before it. -/
theorem attempted_reached (init tail : List σ) (stage : σ) (new : stage ∉ init)
    (reached : stage ∈ attempted fails (init ++ stage :: tail)) :
    ∀ earlier ∈ init, fails earlier = none := by
  rw [attempted_append] at reached
  cases none : init.findSome? fails with
  | none => exact List.findSome?_eq_none_iff.mp none
  | some fault =>
    rw [none] at reached
    exact absurd ((prefix_attempted fails init).subset reached) new

/-- The first stage that fails is the only one that is attempted and fails. -/
theorem findSome?_attempted (stages : List σ) (stage : σ) (fault : Fault)
    (reached : stage ∈ attempted fails stages) (failed : fails stage = some fault) :
    stages.findSome? fails = some fault := by
  induction stages with
  | nil => cases reached
  | cons first rest ih =>
    rw [attempted] at reached
    rw [List.findSome?_cons]
    cases own : fails first with
    | some other =>
      rw [own, Option.isSome_some, if_pos rfl, List.mem_singleton] at reached
      rw [← own, ← reached, failed]
    | none =>
      rw [own, Option.isSome_none, if_neg Bool.false_ne_true, List.mem_cons] at reached
      rcases reached with rfl | later
      · rw [own] at failed
        cases failed
      · exact ih later

/-- A part that only one stage changes is changed once, if that stage is among them. -/
theorem foldl_once [DecidableEq σ] {γ : Type} (part : World δ → γ) (change : γ → γ) (single : σ)
    (alone : ∀ stage now,
      part (leaves stage now) = if stage = single then change (part now) else part now)
    (stages : List σ) (distinct : stages.Nodup) (world : World δ) :
    part (stages.foldl (fun world stage => leaves stage world) world) =
      if single ∈ stages then change (part world) else part world := by
  induction stages generalizing world with
  | nil => rfl
  | cons stage rest ih =>
    obtain ⟨new, distinct⟩ := List.nodup_cons.mp distinct
    rw [List.foldl_cons, ih distinct, alone]
    by_cases same : stage = single
    · subst same
      simp [new]
    · simp [same, Ne.symm same]

end

/-! ## Operations -/

/-- An operation that writes, with what it is given before anything of that is checked. -/
inductive Operation where
  | token (fields : Fields)
  | settings (fields : Fields)
  | regenerate (id modifiedBy : Value)

/-- A stage of an operation that writes. -/
inductive WriteStage where
  | build
  | clock
  | encode
  | mint
  | connect
  | execute
  | log
  deriving DecidableEq

namespace Operation

def stages : Operation → List WriteStage
  | .token _ => [.build, .clock, .connect, .execute]
  | .settings _ => [.build, .clock, .encode, .mint, .connect, .execute]
  | .regenerate _ _ => [.mint, .build, .clock, .connect, .execute, .log]

/-- The fields of the workspace that is built; a new token is one of them. -/
def fields (minted : Text) : Operation → Fields
  | .token fields => fields
  | .settings fields => fields
  | .regenerate id modifiedBy =>
    [("id", id), ("signup_token", .text minted), ("modified_by", modifiedBy)]

/-- The settings among fields, whatever the other fields are. -/
def settingsIn (fields : Fields) : Value := (fields.get? "settings").getD (.dict [])

/-- What is written if no stage before the database fails. -/
def written? (minted : Text) (clock : Value) (operation : Operation) : Option Written := do
  let workspace ← (Workspace.ofFields (operation.fields minted)).toOption
  let seconds ← clock.toInt.toOption
  match operation with
  | .settings _ =>
    let settings ← (StoredSettings.of workspace.settings).toOption
    some ⟨workspace.id, minted, some settings, workspace.modifiedBy, seconds⟩
  | _ => some ⟨workspace.id, workspace.signupToken, none, workspace.modifiedBy, seconds⟩

/-- The record of an operation, which only a new token has. -/
def record? (dialect : Dialect) : Operation → Option LogRecord
  | .regenerate id modifiedBy =>
    some ⟨.info, "Signup token regenerated by " ++ modifiedBy.toText,
      [("db_type", .text (Text.ofString dialect.name)), ("workspace_id", id)], none⟩
  | _ => none

/-- What an operation gives back: a new token, or nothing. -/
def reply (minted : Text) : Operation → Option Text
  | .regenerate _ _ => some minted
  | _ => none

section
variable {δ : Type} [Engine δ]

/-- An operation as a step of a store. -/
def step (store : Store) : Operation → Step δ (Option Text)
  | .token fields => do
    store.upsertSignupToken (← buildWorkspace fields)
    return none
  | .settings fields => do
    store.upsertSettings (← buildWorkspace fields)
    return none
  | .regenerate id modifiedBy => do
    return some (← store.regenerateSignupToken id modifiedBy)

variable (dialect : Dialect) (tablePrefix : Text) (operation : Operation) (world : World δ)

/-- The token that is minted, if one is. -/
def minted : Text := Token.ofSeed world.seeds.next

/-- The statement that is run, if the operation comes to it. -/
def statement? : Option Statement :=
  (operation.written? (minted world) world.clock).map fun written =>
    .upsert (written.upsert tablePrefix)

/-- Whether and how a stage fails, if it is attempted. -/
def fails : WriteStage → Option Fault
  | .build =>
    faultOf ((Workspace.ofFields (operation.fields (minted world))).mapError .invalidRecord)
  | .clock => faultOf (world.clock.toInt.mapError .conversion)
  | .encode => faultOf (encodeSettings (settingsIn (operation.fields (minted world))))
  | .mint => none
  | .connect => faultOf (Engine.connect .transaction world.database).1
  | .execute => (operation.statement? tablePrefix world).bind fun statement =>
    faultOf (Engine.execute dialect statement (Engine.connect .transaction world.database).2).1
  | .log => none

/-- What a stage leaves, whether it fails or not. -/
def leaves (stage : WriteStage) (now : World δ) : World δ :=
  match stage with
  | .mint => { now with seeds := now.seeds.advance }
  | .connect => { now with database := (Engine.connect .transaction now.database).2 }
  | .execute =>
    match operation.statement? tablePrefix world with
    | some statement => { now with database := (Engine.execute dialect statement now.database).2 }
    | none => now
  | .log => { now with log := (operation.record? dialect).toList ++ now.log }
  | _ => now

/-- What the stages of an operation come to. -/
def stagesCourse : Except Fault (Option Text) × World δ :=
  course (operation.fails dialect tablePrefix world) (operation.leaves dialect tablePrefix world)
    operation.stages (operation.reply (minted world)) world

end

/-! ## Single stages -/

private theorem ofExcept_bind {δ α β : Type} (a : α) (next : α → Step δ β) :
    (Step.ofExcept (.ok a) >>= next) = next a :=
  pure_bind a next

theorem ofFields_ok (fields : Fields) (workspace : Workspace)
    (built : Workspace.ofFields fields = .ok workspace) :
    fields.require "id" Value.asText = .ok workspace.id ∧
      fields.optional "signup_token" Value.asText [] = .ok workspace.signupToken ∧
      workspace.settings = settingsIn fields := by
  simp only [Workspace.ofFields] at built
  split at built
  next id token modifiedBy updateAt isId isToken _ _ =>
    rw [← Except.ok.inj built]
    exact ⟨isId, isToken, rfl⟩
  next => cases built

section
variable {δ α : Type} [Engine δ] (dialect : Dialect) (tablePrefix : Text) (operation : Operation)
  (world now : World δ)

private theorem build_course (fields : Fields) (given : operation.fields (minted world) = fields)
    (rest : List WriteStage) (next : Workspace → Step δ α) (a : α)
    (others : ∀ workspace, Workspace.ofFields fields = .ok workspace →
      (next workspace).result now = course (operation.fails dialect tablePrefix world)
        (operation.leaves dialect tablePrefix world) rest a now) :
    (buildWorkspace fields >>= next).result now =
      course (operation.fails dialect tablePrefix world)
        (operation.leaves dialect tablePrefix world) (.build :: rest) a now := by
  have result : (buildWorkspace fields : Step δ Workspace).result now =
      ((Workspace.ofFields fields).mapError .invalidRecord, now) := by
    rw [buildWorkspace, Step.result_ofExcept]
    cases Workspace.ofFields fields <;> rfl
  exact course_bind _ _ _ _ _ _ _ _ _ result (by rw [fails, given]) fun workspace built =>
    others workspace ((mapError_ok_iff _ _ _).mp built)

private theorem clock_course (same : now.clock = world.clock) (rest : List WriteStage)
    (next : Int → Step δ α) (a : α)
    (others : ∀ seconds, world.clock.toInt = .ok seconds →
      (next seconds).result now = course (operation.fails dialect tablePrefix world)
        (operation.leaves dialect tablePrefix world) rest a now) :
    (Step.readClock >>= next).result now =
      course (operation.fails dialect tablePrefix world)
        (operation.leaves dialect tablePrefix world) (.clock :: rest) a now := by
  have result : (Step.readClock : Step δ Int).result now =
      (world.clock.toInt.mapError .conversion, now) := by
    rw [Step.result_readClock, same]
    cases world.clock.toInt <;> rfl
  exact course_bind _ _ _ _ _ _ _ _ _ result rfl fun seconds shown =>
    others seconds ((mapError_ok_iff _ _ _).mp shown)

-- The two calls of the database, which nothing before them has touched
private theorem write_course (same : now.database = world.database) (written : Written)
    (comes : operation.written? (minted world) world.clock = some written)
    (rest : List WriteStage) (next : Unit → Step δ α) (a : α)
    (others : ∀ later : World δ, (next ()).result later =
      course (operation.fails dialect tablePrefix world)
        (operation.leaves dialect tablePrefix world) rest a later) :
    (writeWith ⟨dialect, .withPrefix tablePrefix⟩ (.upsert (written.upsert tablePrefix)) >>=
      next).result now =
        course (operation.fails dialect tablePrefix world)
          (operation.leaves dialect tablePrefix world) (.connect :: .execute :: rest) a now := by
  have statement : operation.statement? tablePrefix world =
      some (.upsert (written.upsert tablePrefix)) := by
    rw [statement?, comes]
    rfl
  have executed (later : World δ) :
      (Step.execute dialect (.upsert (written.upsert tablePrefix))).result later =
        ((Engine.execute dialect (.upsert (written.upsert tablePrefix)) later.database).1,
          operation.leaves dialect tablePrefix world .execute later) := by
    rw [Step.result_execute]
    simp only [leaves, statement]
  simp only [writeWith, bind_assoc, pure_bind]
  refine course_bind _ _ _ _ _ _ _ _ _ (Step.result_connect .transaction now)
    (by rw [fails, same]) fun _ _ => ?_
  refine course_bind _ _ _ _ _ _ _ _ _ (executed _) ?_ fun _ _ => others _
  simp only [fails, statement, leaves, same, Option.bind_some]

/-- An operation comes to what its stages come to. -/
theorem step_result : (operation.step ⟨dialect, .withPrefix tablePrefix⟩).result world =
    operation.stagesCourse dialect tablePrefix world := by
  cases operation with
  | token fields =>
    simp only [step, stagesCourse, stages, reply, upsertSignupToken, bind_assoc]
    refine build_course _ _ _ _ _ fields (by rfl) _ _ _ fun workspace built => ?_
    refine clock_course _ _ _ _ _ (by rfl) _ _ _ fun seconds shown => ?_
    rw [tokenUpsert_eq, ofExcept_bind]
    refine write_course _ _ _ _ _ (by rfl) _ ?_ _ _ _ fun later => course_nil _ _ _ later
    simp [written?, Operation.fields, built, shown, Except.toOption]
  | settings fields =>
    simp only [step, stagesCourse, stages, reply, upsertSettings, bind_assoc]
    refine build_course _ _ _ _ _ fields (by rfl) _ _ _ fun workspace built => ?_
    refine clock_course _ _ _ _ _ (by rfl) _ _ _ fun seconds shown => ?_
    have own := (ofFields_ok fields workspace built).2.2
    refine course_bind _ _ _ _ _ _ _ _ _ (Step.result_ofExcept _ world)
      (by rw [own]; rfl) fun encoding encoded => ?_
    refine course_bind _ _ _ _ _ _ _ _ _ (Step.result_mintToken world) rfl fun token minted => ?_
    obtain rfl := Except.ok.inj minted
    rw [settingsUpsert_eq _ _ _ _ ⟨workspace.settings, encoding, encoded⟩, ofExcept_bind]
    refine write_course _ _ _ _ _ (by rfl) _ ?_ _ _ _ fun later => course_nil _ _ _ later
    simp [written?, Operation.fields, built, shown, StoredSettings.of_encoded _ _ encoded,
      Except.toOption, Operation.minted]
  | regenerate id modifiedBy =>
    simp only [step, stagesCourse, stages, reply, regenerateSignupToken, upsertSignupToken,
      bind_assoc, pure_bind]
    refine course_bind _ _ _ _ _ _ _ _ _ (Step.result_mintToken world) rfl fun token minted => ?_
    obtain rfl := Except.ok.inj minted
    refine build_course _ _ _ _ _ _ (by rfl) _ _ _ fun workspace built => ?_
    refine clock_course _ _ _ _ _ (by rfl) _ _ _ fun seconds shown => ?_
    rw [tokenUpsert_eq, ofExcept_bind]
    refine write_course _ _ _ _ _ (by rfl) _ ?_ _ _ _ fun later => ?_
    · simp [written?, Operation.fields, built, shown, Except.toOption, Operation.minted]
    · exact course_bind _ _ WriteStage.log [] (Step.writeLog _) _ _ later (.ok ()) (by rfl) (by rfl)
        fun _ _ => course_nil _ _ _ _

/-! ## What the stages leave -/

-- The stages before the statement
private def earlier : Operation → List WriteStage
  | .token _ => [.build, .clock, .connect]
  | .settings _ => [.build, .clock, .encode, .mint, .connect]
  | .regenerate _ _ => [.mint, .build, .clock, .connect]

-- Behind the statement comes at most the record, and neither of the two comes before it
private theorem stages_split : .execute ∉ operation.earlier ∧ .log ∉ operation.earlier ∧
    (operation.stages = operation.earlier ++ [.execute] ∨
      operation.stages = operation.earlier ++ [.execute, .log]) := by
  cases operation <;> simp [earlier, stages]

theorem nodup_attempted :
    (attempted (operation.fails dialect tablePrefix world) operation.stages).Nodup := by
  have distinct : operation.stages.Nodup := by
    cases operation <;> simp [stages]
  exact distinct.sublist (prefix_attempted _ _).sublist

/-- Stages that fail end before the record, and with the statement if they come to it. -/
theorem attempted_failed (fault : Fault)
    (failed : operation.stages.findSome? (operation.fails dialect tablePrefix world) =
      some fault) :
    .log ∉ attempted (operation.fails dialect tablePrefix world) operation.stages ∧
      (.execute ∈ attempted (operation.fails dialect tablePrefix world) operation.stages →
        operation.fails dialect tablePrefix world .execute = some fault) := by
  obtain ⟨noExecute, noLog, split⟩ := stages_split operation
  have among := (prefix_attempted (operation.fails dialect tablePrefix world)
    operation.earlier).subset
  cases before : operation.earlier.findSome? (operation.fails dialect tablePrefix world) with
  | some other =>
    have same : attempted (operation.fails dialect tablePrefix world) operation.stages =
        attempted (operation.fails dialect tablePrefix world) operation.earlier := by
      rcases split with eq | eq <;> rw [eq, attempted_append, before]
    rw [same]
    exact ⟨fun member => noLog (among member), fun member => absurd (among member) noExecute⟩
  | none =>
    have statement : operation.fails dialect tablePrefix world .execute = some fault := by
      have silent : operation.fails dialect tablePrefix world .log = none := rfl
      rw [← failed]
      rcases split with eq | eq <;>
        · simp only [eq, List.findSome?_append, before, Option.none_or, List.findSome?_cons,
            List.findSome?_nil, silent]
          cases operation.fails dialect tablePrefix world .execute <;> rfl
    have same : attempted (operation.fails dialect tablePrefix world) operation.stages =
        operation.earlier ++ [.execute] := by
      rcases split with eq | eq <;> simp [eq, attempted_append, before, attempted, statement]
    rw [same]
    exact ⟨by simp [noLog], fun _ => statement⟩

-- Where the statement is reached, there is one
theorem written?_attempted
    (reached : .execute ∈ attempted (operation.fails dialect tablePrefix world) operation.stages) :
    ∃ written, operation.written? (minted world) world.clock = some written := by
  have built (none : operation.fails dialect tablePrefix world .build = none) :
      ∃ workspace, Workspace.ofFields (operation.fields (minted world)) = .ok workspace := by
    obtain ⟨workspace, built⟩ := (faultOf_eq_none_iff _).mp none
    exact ⟨workspace, (mapError_ok_iff _ _ _).mp built⟩
  have shown (none : operation.fails dialect tablePrefix world .clock = none) :
      ∃ seconds, world.clock.toInt = .ok seconds := by
    obtain ⟨seconds, shown⟩ := (faultOf_eq_none_iff _).mp none
    exact ⟨seconds, (mapError_ok_iff _ _ _).mp shown⟩
  have fine : ∀ stage ∈ operation.earlier,
      operation.fails dialect tablePrefix world stage = none := by
    obtain ⟨new, -, split⟩ := stages_split operation
    rcases split with eq | eq <;>
      · rw [eq] at reached
        exact attempted_reached _ _ _ .execute new reached
  cases operation with
  | token fields =>
    obtain ⟨workspace, built⟩ := built (fine _ (by simp [earlier]))
    obtain ⟨seconds, shown⟩ := shown (fine _ (by simp [earlier]))
    simp [written?, built, shown, Except.toOption]
  | settings fields =>
    obtain ⟨workspace, built⟩ := built (fine _ (by simp [earlier]))
    obtain ⟨seconds, shown⟩ := shown (fine _ (by simp [earlier]))
    obtain ⟨encoding, encoded⟩ := (faultOf_eq_none_iff _).mp (fine .encode (by simp [earlier]))
    rw [← (ofFields_ok _ _ built).2.2] at encoded
    simp [written?, built, shown, StoredSettings.of_encoded _ _ encoded, Except.toOption]
  | regenerate id modifiedBy =>
    obtain ⟨workspace, built⟩ := built (fine _ (by simp [earlier]))
    obtain ⟨seconds, shown⟩ := shown (fine _ (by simp [earlier]))
    simp [written?, built, shown, Except.toOption]

theorem stagesCourse_seeds (stages : List WriteStage) (distinct : stages.Nodup) :
    (stages.foldl (fun now stage => operation.leaves dialect tablePrefix world stage now)
      world).seeds = if .mint ∈ stages then world.seeds.advance else world.seeds := by
  refine foldl_once _ World.seeds SeedSupply.advance .mint ?_ stages distinct world
  intro stage now
  cases stage <;> simp only [leaves, reduceCtorEq, if_true, if_false]
  split <;> rfl

theorem stagesCourse_log (stages : List WriteStage) (distinct : stages.Nodup) :
    (stages.foldl (fun now stage => operation.leaves dialect tablePrefix world stage now)
      world).log =
        if .log ∈ stages then (operation.record? dialect).toList ++ world.log else world.log := by
  refine foldl_once _ World.log ((operation.record? dialect).toList ++ ·) .log ?_ stages distinct
    world
  intro stage now
  cases stage <;> simp only [leaves, reduceCtorEq, if_true, if_false]
  split <;> rfl

private theorem stagesCourse_clock (stages : List WriteStage) (now : World δ) :
    (stages.foldl (fun now stage => operation.leaves dialect tablePrefix world stage now)
      now).clock = now.clock := by
  induction stages generalizing now with
  | nil => rfl
  | cons stage rest ih =>
    rw [List.foldl_cons, ih]
    cases stage <;> simp only [leaves]
    split <;> rfl

end

section
variable (dialect : Dialect) (tablePrefix : Text) (operation : Operation)

/-- What a database is asked for at a stage. -/
def call? (world : World CannedDatabase) : WriteStage → Option Call
  | .connect => some (.connection .transaction)
  | .execute => (operation.statement? tablePrefix world).map fun statement =>
    .statement (oneLine (render dialect statement)) statement.bindings
  | _ => none

theorem stagesCourse_calls (world now : World CannedDatabase)
    (stages : List WriteStage) :
    (stages.foldl (fun now stage => operation.leaves dialect tablePrefix world stage now)
      now).database =
        { now.database with
          calls := (stages.filterMap (operation.call? dialect tablePrefix world)).reverse ++
            now.database.calls } := by
  induction stages generalizing now with
  | nil => rfl
  | cons stage rest ih =>
    rw [List.foldl_cons, ih, List.filterMap_cons]
    cases stage <;> simp only [leaves, call?]
    case connect => simp [Engine.connect, CannedDatabase.record]
    case execute =>
      cases operation.statement? tablePrefix world with
      | none => rfl
      | some statement => simp [Engine.execute, CannedDatabase.record]

-- A statement that fails leaves the tables as they are
private theorem run_undone (statement : Statement) (database : Database) (fault : Fault)
    (failed : (database.run dialect statement).1 = .error fault) :
    (database.run dialect statement).2 = database := by
  cases statement with
  | query query =>
    simp only [Database.run]
    split <;> rfl
  | upsert upsert =>
    simp only [Database.run] at failed ⊢
    split
    next => rfl
    next other =>
      rw [if_neg other] at failed
      split
      next after ran =>
        rw [ran] at failed
        cases failed
      next => rfl

private theorem execute_undone (statement : Statement) (faulty : FaultyDatabase) (fault : Fault)
    (failed : faultOf (Engine.execute dialect statement faulty).1 = some fault) :
    (Engine.execute dialect statement faulty).2 = faulty := by
  simp only [Engine.execute] at failed ⊢
  split
  next => rfl
  next none =>
    rw [none] at failed
    dsimp only at failed ⊢
    cases outcome : (faulty.database.run dialect statement).1 with
    | ok result =>
      rw [outcome] at failed
      cases failed
    | error reason =>
      rw [run_undone dialect statement faulty.database reason outcome]

private theorem connect_same (faulty : FaultyDatabase) (checkout : Checkout) :
    (Engine.connect checkout faulty).2 = faulty := by
  simp only [Engine.connect]
  split <;> rfl

-- Only the statement changes a database that keeps no calls
private theorem stagesCourse_database (world : World FaultyDatabase) (stages : List WriteStage)
    (distinct : stages.Nodup) :
    (stages.foldl (fun now stage => operation.leaves dialect tablePrefix world stage now)
      world).database =
        if .execute ∈ stages then
          (operation.leaves dialect tablePrefix world .execute world).database
        else world.database := by
  have executed (now : World FaultyDatabase) :
      (operation.leaves dialect tablePrefix world .execute now).database =
        match operation.statement? tablePrefix world with
        | some statement => (Engine.execute dialect statement now.database).2
        | none => now.database := by
    rw [leaves]
    split <;> rfl
  rw [executed]
  refine foldl_once _ World.database
    (fun faulty => match operation.statement? tablePrefix world with
      | some statement => (Engine.execute dialect statement faulty).2
      | none => faulty) .execute ?_ stages distinct world
  intro stage now
  by_cases statement : stage = .execute
  · rw [statement, if_pos rfl, executed]
  · rw [if_neg statement]
    cases stage <;> simp only [leaves, connect_same]
    exact absurd rfl statement

/-- Where the statement is reached, the database is as the statement leaves it, and else as it
was. -/
theorem stagesCourse_executed (world : World FaultyDatabase) :
    let result := operation.stagesCourse dialect tablePrefix world
    (.execute ∉ attempted (operation.fails dialect tablePrefix world) operation.stages →
      result.2.database = world.database) ∧
    ∀ written, operation.written? (minted world) world.clock = some written →
      .execute ∈ attempted (operation.fails dialect tablePrefix world) operation.stages →
        operation.fails dialect tablePrefix world .execute = faultOf (Engine.execute dialect
          (.upsert (written.upsert tablePrefix)) world.database).1 ∧
        result.2.database = (Engine.execute dialect
          (.upsert (written.upsert tablePrefix)) world.database).2 := by
  have database := stagesCourse_database dialect tablePrefix operation world _
    (operation.nodup_attempted dialect tablePrefix world)
  refine ⟨fun away => database.trans (if_neg away), ?_⟩
  intro written comes reached
  have statement : operation.statement? tablePrefix world =
      some (.upsert (written.upsert tablePrefix)) := by
    rw [statement?, comes]
    rfl
  rw [if_pos reached, leaves, statement] at database
  refine ⟨?_, database⟩
  rw [fails, connect_same, statement]
  rfl

/-- Stages that fail have either not come to the statement, or the statement is undone. -/
theorem stagesCourse_undone (world : World FaultyDatabase) (fault : Fault)
    (failed : operation.stages.findSome? (operation.fails dialect tablePrefix world) =
      some fault) :
    (operation.stagesCourse dialect tablePrefix world).2.database = world.database := by
  obtain ⟨away, executed⟩ := stagesCourse_executed dialect tablePrefix operation world
  by_cases reached :
      .execute ∈ attempted (operation.fails dialect tablePrefix world) operation.stages
  · obtain ⟨written, comes⟩ := operation.written?_attempted dialect tablePrefix world reached
    obtain ⟨outcome, database⟩ := executed written comes reached
    have refused := (attempted_failed dialect tablePrefix operation world fault failed).2 reached
    rw [database]
    exact execute_undone dialect _ world.database fault (outcome.symm.trans refused)
  · exact away reached

end

end Operation

/-- An operation that writes goes through its stages up to the first that fails. It ends with the
failure of that stage, or else gives back the new token if it is to make one. A seed is drawn if the
stage that draws it is reached, and a record is written if no stage fails. The database is asked for
at most one connection and one statement, by the stages that are reached, and for nothing else. An
embedded database is as before where the operation fails. -/
theorem write_stages (dialect : Dialect) (tablePrefix : Text) (operation : Operation) :
    (∀ (δ : Type) [Engine δ] (world : World δ),
      let fails := operation.fails dialect tablePrefix world
      let reached := attempted fails operation.stages
      let result := (operation.step ⟨dialect, .withPrefix tablePrefix⟩).result world
      reached <+: operation.stages ∧
        (.execute ∈ reached → (operation.statement? tablePrefix world).isSome) ∧
        result.1 = (match operation.stages.findSome? fails with
          | some fault => .error fault
          | none => .ok (operation.reply (Operation.minted world))) ∧
        result.2.clock = world.clock ∧
        result.2.seeds = (if .mint ∈ reached then world.seeds.advance else world.seeds) ∧
        result.2.log = (if (operation.stages.findSome? fails).isNone then
          (operation.record? dialect).toList else []) ++ world.log) ∧
      (∀ world : World CannedDatabase,
        ((operation.step ⟨dialect, .withPrefix tablePrefix⟩).result world).2.database =
          { world.database with
            calls := ((attempted (operation.fails dialect tablePrefix world)
              operation.stages).filterMap (operation.call? dialect tablePrefix world)).reverse ++
                world.database.calls }) ∧
      ∀ (world : World FaultyDatabase) (fault : Fault),
        ((operation.step ⟨dialect, .withPrefix tablePrefix⟩).result world).1 = .error fault →
          ((operation.step ⟨dialect, .withPrefix tablePrefix⟩).result world).2.database =
            world.database := by
  refine ⟨?_, ?_, ?_⟩
  · intro δ _ world fails reached result
    have distinct := operation.nodup_attempted dialect tablePrefix world
    have eq : result = operation.stagesCourse dialect tablePrefix world :=
      operation.step_result dialect tablePrefix world
    refine ⟨prefix_attempted _ _, ?_, ?_, ?_, ?_, ?_⟩
    · intro executed
      obtain ⟨written, comes⟩ := operation.written?_attempted dialect tablePrefix world executed
      rw [Operation.statement?, comes]
      rfl
    · rw [eq]
      rfl
    · rw [eq]
      exact operation.stagesCourse_clock dialect tablePrefix world _ world
    · rw [eq]
      exact operation.stagesCourse_seeds dialect tablePrefix world _ distinct
    · rw [eq]
      refine (operation.stagesCourse_log dialect tablePrefix world _ distinct).trans ?_
      cases failed : operation.stages.findSome? fails with
      | some fault =>
        rw [if_neg (operation.attempted_failed dialect tablePrefix world fault failed).1]
        rfl
      | none =>
        -- All stages are reached, and the last of them writes the record if there is one
        rw [attempted_eq_self _ _ failed]
        cases operation <;> rfl
  · intro world
    rw [operation.step_result dialect tablePrefix world]
    exact operation.stagesCourse_calls dialect tablePrefix world world _
  · intro world fault failed
    rw [operation.step_result dialect tablePrefix world] at failed ⊢
    cases stages : operation.stages.findSome? (operation.fails dialect tablePrefix world) with
    | some reason =>
      exact operation.stagesCourse_undone dialect tablePrefix world reason stages
    | none =>
      rw [Operation.stagesCourse, course, stages] at failed
      cases failed

/-- Settings that the database refuses cost a seed, and leave the tables as they are. -/
theorem write_stages_refused :
    let world : World FaultyDatabase :=
      ⟨⟨[], 0⟩, .int 5, [], ⟨holding "p_" [], some (.execute, .noRow)⟩⟩
    let operation := Operation.settings [("id", .text "a")]
    let result := (operation.step ⟨.sqlite, .withPrefix "p_"⟩).result world
    result.1 = .error .noRow ∧ result.2.seeds = world.seeds.advance ∧
      result.2.database = world.database := by
  intro world operation result
  obtain ⟨stages, -, undone⟩ := write_stages .sqlite "p_" operation
  obtain ⟨-, -, outcome, -, seeds, -⟩ := stages FaultyDatabase world
  exact ⟨outcome, seeds, undone world .noRow outcome⟩

end Tenancy.Store
