import Tenancy.Cli.Arguments
import Tenancy.Service
import Tenancy.Store.Basic

/-!
# Running commands

A command line leads to an outcome: an exit status, what is printed, and what is written beside it,
the lines of the log first. Misuse ends with status two. What a command foresees ends with status
one and a message; any other failure escapes, also with status one.
-/
namespace Tenancy.Cli

variable {δ : Type}

/-- How the HTTP server is launched. -/
structure Launch where
  host : Text
  port : Int
  reload : Bool
  deriving DecidableEq

def Launch.toPairs (launch : Launch) : List (String × Value) :=
  [("app", .text "boardstore.server.app:app"), ("host", .text launch.host),
    ("log_level", .text "warning"), ("port", .int launch.port), ("reload", .bool launch.reload)]

/-- How a command ends. -/
structure Outcome where
  status : Nat
  output : Text
  errors : List Text
  /-- The failure that escaped, if one did. -/
  escaped : Option Report
  launch : Option Launch

namespace Outcome

def done (errors lines : List Text) : Outcome :=
  ⟨0, lines.flatMap fun line => line ++ [.newline], errors, none, none⟩

def messageLines (message : Text) : List Text := Text.splitOn .newline ("Error: " ++ message)

def refused (errors : List Text) (message : Text) : Outcome :=
  ⟨1, [], errors ++ messageLines message, none, none⟩

def failed (errors : List Text) (report : Report) : Outcome := ⟨1, [], errors, some report, none⟩

def ofStop : Stop → Outcome
  | .help description => done [] description
  | .nothing description => ⟨2, [], description, none, none⟩
  | .misuse path usage fault =>
    ⟨2, [], ["Usage: " ++ usage, "Try '" ++ path ++ " --help' for help.", []]
      ++ messageLines fault.message, none, none⟩
  | .valueMissing option =>
    ⟨2, [], messageLines ("Option '" ++ Text.ofString option ++ "' requires an argument."), none,
      none⟩
  | .valueGiven option =>
    ⟨2, [], messageLines ("Option '" ++ Text.ofString option ++ "' does not take a value."), none,
      none⟩

def misuse (action : Action) (fault : UsageFault) : Outcome :=
  ofStop (.misuse (Text.ofString action.path) action.usage fault)

end Outcome

/-- Where commands run. -/
structure Session where
  environment : Environment
  /-- The text of the environment file. -/
  file : Text := []
  /-- A store to use in place of the configured one, without a log. -/
  store : Option Store := none

/-- A store with the log for it, and the lines of the log so far. -/
structure Opened where
  store : Store
  log : LogOutput
  lines : List Text
  /-- Where its database is to be opened, if it is not open yet. -/
  location : Option Location

namespace Session

/-- Opens the store for a command, or ends the command. -/
def openStore (session : Session) : Except Outcome Opened :=
  match session.store with
  | some store => .ok ⟨store, {}, [], none⟩
  | none =>
    match Settings.load session.environment session.file with
    | .error problems => .error (.failed [] (StartFault.report (.settings problems)))
    | .ok settings =>
      match settings.setUpLog with
      | (.error fault, _) => .error (.failed [] fault.report)
      | (.ok lines, log) =>
        match settings.address? with
        | none => .error (.refused lines "BOARDSTORE_DATABASE_URL is not set.")
        | some address =>
          match Pool.ofAddress address [] with
          | .error fault => .error (.failed lines fault.report)
          | .ok pool => .ok ⟨settings.store, log, lines, some pool.location⟩

/-- Runs a step that gives the lines to print. `refusal?` are the messages for the failures that the
command foresees. -/
def runStep (opened : Opened) (refusal? : Fault → Option Text) (step : Step δ (List Text)) :
    StateM (World δ) Outcome := do
  let earlier := (← get).log
  modify fun world => { world with log := [] }
  let result ← step.run
  let errors := opened.lines ++ (← get).log.reverse.flatMap opened.log.write
  modify fun world => { world with log := earlier }
  match result with
  | .ok lines => return .done errors lines
  | .error fault =>
    match refusal? fault with
    | some message => return .refused errors message
    | none => return .failed errors fault.report

def openAt [Host δ] (location : Location) : StateM (World δ) Unit :=
  modify fun world => { world with database := Host.openAt location world.database }

def withStore [Host δ] (session : Session) (refusal? : Fault → Option Text)
    (step : Store → Step δ (List Text)) : StateM (World δ) Outcome :=
  match session.openStore with
  | .ok opened => do
    if let some location := opened.location then openAt location
    runStep opened refusal? (step opened.store)
  | .error outcome => return outcome

def get [Host δ] (session : Session) (id : Text) : StateM (World δ) Outcome :=
  session.withStore
    (fun
      | .workspaceNotFound _ => some ("Workspace '" ++ id ++ "' not found.")
      | _ => none)
    fun store => do
      let workspace ← store.getWorkspace (.text id)
      match Json.dumpWith (some 2) workspace.toValue with
      | .ok document => return [document]
      | .error cause => throw (.unprintable cause)

def count [Host δ] (session : Session) : StateM (World δ) Outcome :=
  session.withStore (fun _ => none) fun store => return [Text.ofInt (← store.getWorkspaceCount)]

def entryLine (entry : UserWorkspace) : Text :=
  Text.join [0x09] [entry.id, Text.ofInt entry.boardCount, entry.title]

/-- Prints the workspaces of a user, one a line. -/
def listForUser [Host δ] (session : Session) (user : Text) : StateM (World δ) Outcome :=
  session.withStore
    (fun
      | .unsupportedDatabase operation dbType => some (Fault.unsupportedMessage operation dbType)
      | _ => none)
    fun store => return (← store.getUserWorkspaces (.text user)).map entryLine

/-- Replaces the token of a workspace and prints the new one. -/
def regenerateToken [Host δ] (session : Session) (id modifiedBy : Text) :
    StateM (World δ) Outcome :=
  session.withStore (fun _ => none) fun store =>
    return [← store.regenerateSignupToken (.text id) (.text modifiedBy)]

/-- Replaces the settings of a workspace. -/
def setSettings [Host δ] (session : Session) (id document modifiedBy : Text) :
    StateM (World δ) Outcome :=
  -- The document is read before the store is opened
  match Json.read document with
  | .error (.malformed fault) =>
    return .misuse .setSettings (.invalidDocument "SETTINGS_JSON" fault.message)
  | .error fault => return .failed [] (Fault.reportUnreadable fault)
  | .ok settings =>
    session.withStore (fun _ => none) fun store => do
      store.upsertSettings { id, settings := settings.toValue, modifiedBy }
      return ["Settings updated for " ++ id ++ "."]

/-- A text that is given and not empty, or else another one. -/
def orText (given : Option Text) (absent : Text) : Text := (given.filter (!·.isEmpty)).getD absent

/-- Launches the HTTP server. -/
def serve (session : Session) (request : Request) : Outcome :=
  -- An empty host and port zero count as not given
  match Settings.load session.environment session.file with
  | .error problems => .failed [] (StartFault.report (.settings problems))
  | .ok settings =>
    let port := (request.option? "--port").bind fun word => word.toInt.toOption
    let launch : Launch :=
      { host := orText (request.option? "--host") settings.host
        port := (port.filter (· != 0)).getD settings.port
        reload := (request.option? "--reload").isSome }
    { Outcome.done [] [] with launch := some launch }

def runRequest [Host δ] (session : Session) (request : Request) : StateM (World δ) Outcome :=
  let modifiedBy := (request.option? "--modified-by").getD "system"
  match request.action with
  | .serve => return session.serve request
  | .get => session.get (request.argument 0)
  | .count => session.count
  | .listForUser => session.listForUser (request.argument 0)
  | .regenerateToken => session.regenerateToken (request.argument 0) modifiedBy
  | .setSettings => session.setSettings (request.argument 0) (request.argument 1) modifiedBy

/-- Runs a command line. -/
def run [Host δ] (session : Session) (words : List Text) : StateM (World δ) Outcome :=
  match read words with
  | .ok request => session.runRequest request
  | .error stop => return .ofStop stop

end Session

end Tenancy.Cli
