import Tenancy.Cli.Session
import Tenancy.Database.Disk
import Tenancy.Proofs.Store.Writing

/-!
# Commands that run

How the two commands on the settings of a workspace are read, and what they come to. A command opens
its store, runs one step of it with an empty log and ends as the step does; then the log is again
what it was before.
-/
namespace Tenancy.Cli

open Store

/-! ## Command lines -/

/-- The words that replace the settings of a workspace. -/
def settingWords (id document user : Text) : List Text :=
  ["workspace", "set-settings", id, document, "--modified-by", user]

-- A word that is no option is an argument
private theorem readWords_argument (path usage : Text) (options : List OptionSpec) (fuel : Nat)
    (word : Text) (rest arguments : List Text) (given : List Given)
    (isArgument : isOption word = false)
    (more : readWords path usage options fuel rest = .ok (given, arguments)) :
    readWords path usage options (fuel + 1) (word :: rest) = .ok (given, word :: arguments) := by
  have notEnd : word ≠ "--" := by
    rintro rfl
    cases isArgument
  rw [readWords, if_neg notEnd, isArgument, if_neg Bool.false_ne_true, more]

private theorem read_setting (id document user : Text) (isArgument : isOption id = false)
    (isArgument' : isOption document = false) : read (settingWords id document user) =
      .ok ⟨.setSettings, [⟨Action.modifiedBy, user⟩], [id, document]⟩ := by
  have outer : readGroup .main (settingWords id document user) =
      .ok (.group .workspace, ["set-settings", id, document, "--modified-by", user]) := rfl
  have inner : readGroup .workspace ["set-settings", id, document, "--modified-by", user] =
      .ok (.action .setSettings, [id, document, "--modified-by", user]) := rfl
  have words (path usage : Text) : readWords path usage Action.setSettings.options 4
      [id, document, "--modified-by", user] =
        .ok ([⟨Action.modifiedBy, user⟩], [id, document]) :=
    readWords_argument _ _ _ _ _ _ _ _ isArgument
      (readWords_argument _ _ _ _ _ _ _ _ isArgument' rfl)
  simp only [read, outer, inner, readAction]
  rw [show [id, document, "--modified-by", user].length = 4 from rfl, words]
  rfl

/-- The database that a command finds: that of its store, if it is not open yet. -/
def Opened.enter {δ : Type} [Host δ] (opened : Opened) (database : δ) : δ :=
  match opened.location with
  | some location => Host.openAt location database
  | none => database

namespace Session

/-- Settings with the address of a database open the store of that database. -/
theorem openStore_configured (session : Session) (none : session.store = none)
    (settings : Settings) (loads : Settings.load session.environment session.file = .ok settings)
    (ready : settings.setUpLog.1.toOption.isSome = true) (address : Text)
    (addressed : settings.address? = some address) (pool : Pool)
    (pooled : Pool.ofAddress address [] = .ok pool) :
    ∃ opened, session.openStore = .ok opened ∧ opened.store = settings.store ∧
      opened.location = some pool.location := by
  rcases log : settings.setUpLog with ⟨fault | lines, output⟩
  · rw [log] at ready
    cases ready
  · refine ⟨⟨settings.store, output, lines, some pool.location⟩, ?_, rfl, rfl⟩
    simp only [openStore, none, loads, log, addressed, pooled]

variable {δ : Type}

/-- The outcome of a command whose step has ended, with the log of the step. -/
def ending (opened : Opened) (refusal? : Fault → Option Text) (log : List LogRecord) :
    Except Fault (List Text) → Outcome
  | .ok lines => .done (opened.lines ++ log.reverse.flatMap opened.log.write) lines
  | .error fault =>
    match refusal? fault with
    | some message => .refused (opened.lines ++ log.reverse.flatMap opened.log.write) message
    | none => .failed (opened.lines ++ log.reverse.flatMap opened.log.write) fault.report

/-- A command ends as its step does; the log of before is put back. -/
theorem runStep_run (opened : Opened) (refusal? : Fault → Option Text)
    (step : Step δ (List Text)) (world after : World δ) (outcome : Except Fault (List Text))
    (result : step.result { world with log := [] } = (outcome, after)) :
    (runStep opened refusal? step).run world =
      (ending opened refusal? after.log outcome, { after with log := world.log }) := by
  have run : StateT.run (ExceptT.run step) { world with log := [] } = (outcome, after) := result
  simp only [runStep, StateT.run_bind, StateT.run_get, StateT.run_modify, pure_bind, run]
  cases outcome with
  | ok lines => rfl
  | error fault =>
    let errors := opened.lines ++ after.log.reverse.flatMap opened.log.write
    change StateT.run (match refusal? fault with
      | some message => pure (Outcome.refused errors message)
      | none => pure (Outcome.failed errors fault.report)) { after with log := world.log } = _
    simp only [ending]
    cases refusal? fault <;> rfl

/-- A command whose store can be opened runs its step in the database of the store. -/
theorem withStore_run [Host δ] (session : Session) (opened : Opened)
    (opens : session.openStore = .ok opened) (refusal? : Fault → Option Text)
    (step : Store → Step δ (List Text)) (world : World δ) :
    (session.withStore refusal? step).run world =
      (runStep opened refusal? (step opened.store)).run
        { world with database := opened.enter world.database } := by
  rw [withStore, opens]
  simp only [Opened.enter]
  cases opened.location with
  | none => rfl
  | some location => rfl

private theorem run_read [Host δ] (session : Session) (words : List Text) (request : Request)
    (read : Cli.read words = .ok request) :
    (session.run words : StateM (World δ) Outcome) = session.runRequest request := by
  rw [run, read]

/-- Replacing settings by a document writes what the document denotes; the command succeeds if the
store does. -/
theorem run_setting [Host δ] (session : Session) (opened : Opened)
    (opens : session.openStore = .ok opened) (tablePrefix : Text)
    (isEmbedded : opened.store = embedded tablePrefix) (id t user : Text)
    (isArgument : isOption id = false) (isArgument' : isOption t = false) (document : Json)
    (read : Json.read t = .ok document) (world : World δ) :
    let written := ((embedded tablePrefix).upsertSettings
      { id, settings := document.toValue, modifiedBy := user }).result
        { world with database := opened.enter world.database }
    let ended := (session.run (settingWords id t user)).run world
    ended.2 = written.2 ∧ (ended.1.status = 0 ↔ written.1 = .ok ()) := by
  intro written ended
  let workspace : Workspace := { id, settings := document.toValue, modifiedBy := user }
  let before : World δ := { world with database := opened.enter world.database }
  -- The step runs with an empty log, and the write neither reads the log nor adds to it
  have quiet := upsertSettings_log tablePrefix before workspace []
  have kept : { written.2 with log := world.log } = written.2 :=
    (congrArg Prod.snd (upsertSettings_log tablePrefix before workspace world.log)).symm
  have request : (session.runRequest ⟨.setSettings, [⟨Action.modifiedBy, user⟩], [id, t]⟩ :
      StateM (World δ) Outcome) = session.setSettings id t user := rfl
  have run : ended = (runStep opened (fun _ => none) (do
      opened.store.upsertSettings workspace
      return ["Settings updated for " ++ id ++ "."])).run before := by
    simp only [ended]
    rw [run_read session _ _ (read_setting id t user isArgument isArgument'), request, setSettings,
      read]
    exact withStore_run session opened opens _ _ world
  rw [isEmbedded] at run
  let told : Unit → Step δ (List Text) := fun _ => pure ["Settings updated for " ++ id ++ "."]
  cases outcome : written.1 with
  | ok =>
    have step := Step.result_bind_ok _ told _ _ () (quiet.trans (Prod.ext outcome rfl))
    rw [run, runStep_run _ _ _ _ _ _ step]
    exact ⟨kept, ⟨fun _ => rfl, fun _ => rfl⟩⟩
  | error fault =>
    have step := Step.result_bind_error _ told _ _ fault (quiet.trans (Prod.ext outcome rfl))
    rw [run, runStep_run _ _ _ _ _ _ step]
    refine ⟨kept, ⟨fun met => ?_, fun same => ?_⟩⟩
    · cases met
    · cases same

/-- A session that is configured with a file of its folder. -/
def boards : Session :=
  { environment :=
      [("BOARDSTORE_DATABASE_URL", "sqlite:///boards.db"), ("BOARDSTORE_DB_TYPE", "sqlite3")] }

def boardsFile : FileAddress := ⟨"boards.db", .creating, false⟩

/-- A disk with that file, in which the tables have just been made. -/
def boardsDisk : Disk := ⟨[], [[]], [(["boards.db"], holding [] [])], .memory, .empty⟩

theorem openStore_boards : ∃ opened, boards.openStore = .ok opened ∧
    opened.store = embedded [] ∧ opened.location = some (.file boardsFile) := by
  have loads : Settings.load boards.environment boards.file =
      .ok { databaseUrl := some "sqlite:///boards.db", dialect := .sqlite } := by
    decide +kernel
  have pooled : (Pool.ofAddress "sqlite:///boards.db" []).toOption.any (fun pool =>
      match pool.location with
      | .file address => address == boardsFile
      | _ => false) = true := by
    decide +kernel
  cases known : Pool.ofAddress "sqlite:///boards.db" [] with
  | error fault =>
    rw [known] at pooled
    cases pooled
  | ok pool =>
    have location : pool.location = .file boardsFile := by
      rw [known] at pooled
      simp only [Except.toOption, Option.any_some] at pooled
      split at pooled
      next address located => rw [located, beq_iff_eq.mp pooled]
      next => cases pooled
    rw [← location]
    exact openStore_configured boards rfl _ loads (by decide +kernel) _ rfl pool known

/-- The world of a disk, at some time and with some supply of tokens. -/
def worldOf (disk : Disk) : World Disk := ⟨⟨[], 0⟩, .int 5, [], disk⟩

/-- A text with a name twice and a pair in two escapes. -/
def repeated : Text := "\x7b\"a\": true, \"a\": \"\\ud83d\\ude00\"\x7d"

/-- What it denotes. -/
def repeatedDocument : Json := .object [("a", .string [0x1f600])]

theorem read_repeated : Json.read repeated = .ok repeatedDocument := by cbv

theorem run_repeated : ((boards.run (settingWords "a" repeated "u")).run
    (worldOf boardsDisk)).1.status = 0 := by
  obtain ⟨opened, opens, isEmbedded, location⟩ := openStore_boards
  obtain ⟨-, succeeds⟩ := run_setting boards opened opens [] isEmbedded "a" repeated "u" rfl rfl
    repeatedDocument read_repeated (worldOf boardsDisk)
  have entered : opened.enter (worldOf boardsDisk).database =
      Host.openAt (.file boardsFile) boardsDisk := by
    rw [Opened.enter, location]
    rfl
  rw [entered] at succeeds
  let before := worldOf (Host.openAt (.file boardsFile) boardsDisk)
  let workspace : Workspace :=
    { id := "a"
      settings := repeatedDocument.toValue
      modifiedBy := "u" }
  have stored : (((embedded []).upsertSettings workspace).result before).1.toOption.isSome =
      true := by
    decide +kernel
  refine succeeds.mpr ?_
  cases outcome : (((embedded []).upsertSettings workspace).result before).1 with
  | ok => exact outcome
  | error fault =>
    rw [outcome] at stored
    cases stored

end Session

end Tenancy.Cli
