import Tenancy.Config.Settings
import Tenancy.Database.Pool
import Tenancy.Log.Output
import Tenancy.Store.Statements

/-!
# The service

Starting the service reads the settings, sets up the log and, if there is a database address, opens
a pool and makes the store of its tables. Without an address the service runs, but without a store.
-/
namespace Tenancy

/-- Why the service, or a command, cannot start. -/
inductive StartFault where
  | settings (problems : List FieldProblem)
  | log (cause : LogFault)
  | pool (cause : PoolFault)
  /-- The address of the database cannot be written. -/
  | address (cause : EncodeFault)
  deriving DecidableEq, Repr

def StartFault.report : StartFault → Report
  | .settings problems => .of "ValidationError" (FieldProblem.messages problems)
  | .log cause => cause.report
  | .pool cause => cause.report
  | .address cause => .of "UnicodeEncodeError" cause.message

/-- The store of the configured type of database and tables. -/
def Settings.store (settings : Settings) : Store :=
  ⟨settings.dialect, .withPrefix settings.tablePrefix⟩

/-- The configured database address, if there is one. -/
def Settings.address? (settings : Settings) : Option Text :=
  settings.databaseUrl.filter (!·.isEmpty)

/-- What the service says of its settings in the log: what they are, and how the log is set up. -/
def Settings.setUpLog (settings : Settings) : Except LogFault (List Text) × LogOutput :=
  LogOutput.setUp {} (.text settings.logLevel) (.text (Text.ofString settings.dialect.name))

/-- A running service. -/
structure Service where
  log : LogOutput
  pool : Option Pool
  store : Option Store

namespace Service

def record (level : LogLevel) (message : Text) : LogRecord := ⟨level, message, [], none⟩

/-- The first record of a service. -/
def startRecord (settings : Settings) : LogRecord :=
  record .info
    ("Boardstore starting (host=" ++ settings.host ++ ", port=" ++ Text.ofInt settings.port ++ ")")

/-- The record of an address, as it is written. -/
def poolRecord (settings : Settings) (address : Text) : LogRecord :=
  record .info
    ("Database: " ++ address ++ " (db_type=" ++ Text.ofString settings.dialect.name
      ++ ", table_prefix=" ++ settings.tablePrefix.quoted ++ ")")

/-- Opens the pool of configured settings, and makes the store. -/
def connect (settings : Settings) (log : LogOutput) : Except StartFault (Service × List Text) :=
  -- The lines are those of the log. An address is written only after its pool has been opened
  match settings.address? with
  | none =>
    .ok (⟨log, none, none⟩,
      log.write (record .warning
        "BOARDSTORE_DATABASE_URL not set -- workspace endpoints disabled"))
  | some address =>
    match Pool.ofAddress address [] with
    | .error fault => .error (.pool fault)
    | .ok pool =>
      match pool.address.render true with
      | .error fault => .error (.address fault)
      | .ok written =>
        .ok (⟨log, some pool, some settings.store⟩, log.write (poolRecord settings written))

/-- Starts a service. -/
def start (environment : Environment) (file : Text) : Except StartFault Service × List Text :=
  -- The lines are those of the log, also if the start fails
  match Settings.load environment file with
  | .error problems => (.error (.settings problems), [])
  | .ok settings =>
    match settings.setUpLog with
    | (.error fault, _) => (.error (.log fault), [])
    | (.ok ready, log) =>
      let lines := ready ++ log.write (startRecord settings)
      match connect settings log with
      | .error fault => (.error fault, lines)
      | .ok (service, more) => (.ok service, lines ++ more)

def stop (service : Service) : List Text :=
  service.log.write (record .info "Boardstore shutting down")
    ++ if service.pool.isSome then service.log.write (record .info "Database: disposed") else []

/-- What a service writes from its start to its stop, or until its start fails. -/
def lifespan (environment : Environment) (file : Text) : List Text :=
  match start environment file with
  | (.ok service, lines) => lines ++ service.stop
  | (.error _, lines) => lines

end Service

end Tenancy
