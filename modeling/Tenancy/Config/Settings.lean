import Tenancy.Config.EnvFile
import Tenancy.Record.Problem
import Tenancy.Sql.Dialect
import Tenancy.Text.Casing
import Tenancy.Url.Reader

/-!
# Settings

The service is configured by variables of the environment and by an environment file, of which the
environment counts more. The names of variables begin with `BOARDSTORE_`, in either case. The file
may assign nothing else, whereas the environment may hold anything besides. If a database address
is given, it has to be one of the configured type of database.
-/
namespace Tenancy

open Fields

/-- The configuration of the service. -/
structure Settings where
  logLevel : Text := "INFO"
  databaseUrl : Option Text := none
  dialect : Dialect := .postgres
  tablePrefix : Text := []
  host : Text := "0.0.0.0"
  port : Int := 8000
  deriving DecidableEq, Repr

namespace Settings

/-- The names of the settings, in the order in which they are checked and shown. -/
def names : List String :=
  ["log_level", "database_url", "db_type", "table_prefix", "host", "port"]

/-- What the variable of every setting begins with, in lower case. -/
def variableStart : Text := "boardstore_"

/-- The variable of a setting, in lower case. -/
def variableName (name : String) : Text := variableStart ++ Text.ofString name

/-- Assignments with their names in lower case; of several that become equal the last counts. -/
def foldCase {α : Type} (assignments : List (Text × α)) : List (Text × α) :=
  assignments.foldl (fun folded (name, value) => EnvFile.assign name.lower value folded) []

/-- The value of a setting: that of the environment or else that of the file. -/
def given? (environment : Environment) (file : List (Text × Option Text)) (name : String) :
    Option Text :=
  match environment.lookup (variableName name) with
  | some value => some value
  | none => (file.lookup (variableName name)).join

/-- The assignments of a file that are no settings. -/
def strangers (file : List (Text × Option Text)) : List Text :=
  -- An assignment without a value is none, and the bare name of a setting is let pass
  (file.filter fun (name, value) =>
    value.any (!·.isEmpty) && names.all fun known =>
      name != variableName known && name != Text.ofString known).map (·.1)

def asDialect (value : Value) : Except Misfit Dialect :=
  match value with
  | .text name =>
    match Dialect.ofName? name with
    | some dialect => .ok dialect
    | none => .error (.notOneOf ["sqlite3", "postgres", "mysql"])
  | _ => .error (.notOneOf ["sqlite3", "postgres", "mysql"])

def dialectOfBackend? (backend : Text) : Option Dialect :=
  if backend = "sqlite" then some .sqlite
  else if backend = "postgresql" then some .postgres
  else if backend = "mysql" then some .mysql
  else if backend = "mariadb" then some .mysql
  else none

/-- Why a database address does not go with a type of database, if it does not. -/
def urlProblem? (dialect : Dialect) (address : Text) : Option Text :=
  match Url.read address with
  | .error .malformed =>
    some ("database_url is not a valid SQLAlchemy URL: " ++ Url.Fault.message .malformed)
  | .error fault => some fault.message
  | .ok url =>
    match dialectOfBackend? url.backend with
    | none => some ("database_url backend '" ++ url.backend ++ "' is not supported")
    | some expected =>
      if expected = dialect then none
      else some
        ("db_type '" ++ Text.ofString dialect.name ++ "' does not match database_url backend '"
          ++ url.backend ++ "' (expected '" ++ Text.ofString expected.name ++ "')")

/-- The settings themselves, if their database address goes with the type of database. -/
def checkUrl (settings : Settings) : Except (List FieldProblem) Settings :=
  match settings.databaseUrl with
  | none => .ok settings
  | some [] => .ok settings
  | some address =>
    match urlProblem? settings.dialect address with
    | none => .ok settings
    | some reason => .error [⟨[], .refused reason⟩]

/-- The settings of given fields. `strangers` are what was given besides; each is a problem of its
own, and they come last. -/
def ofFields (fields : Fields) (strangers : List Text) : Except (List FieldProblem) Settings :=
  let logLevel := fields.optional "log_level" Value.asText "INFO"
  let databaseUrl := fields.optional "database_url" (fun value => value.asText.map some) none
  let dialect := fields.optional "db_type" asDialect .postgres
  let tablePrefix := fields.optional "table_prefix" Value.asText []
  let host := fields.optional "host" Value.asText "0.0.0.0"
  let port := fields.optional "port" Value.asInt 8000
  let others := strangers.map fun name => FieldProblem.mk [name] .notPermitted
  match logLevel, databaseUrl, dialect, tablePrefix, host, port, others with
  | .ok logLevel, .ok databaseUrl, .ok dialect, .ok tablePrefix, .ok host, .ok port, [] =>
    checkUrl ⟨logLevel, databaseUrl, dialect, tablePrefix, host, port⟩
  | _, _, _, _, _, _, _ =>
    .error (problem? logLevel ++ problem? databaseUrl ++ problem? dialect ++ problem? tablePrefix
      ++ problem? host ++ problem? port ++ others)

/-- The settings of an environment and the text of an environment file. -/
def load (environment : Environment) (file : Text) : Except (List FieldProblem) Settings :=
  let assignments := foldCase (EnvFile.read environment file)
  let given := foldCase environment
  let fields := names.filterMap fun name =>
    (given? given assignments name).map fun value => (Text.ofString name, Value.text value)
  ofFields fields (strangers assignments)

def toPairs (settings : Settings) : List (String × Value) :=
  [("log_level", .text settings.logLevel),
    ("database_url", settings.databaseUrl.elim .null .text),
    ("db_type", .text (Text.ofString settings.dialect.name)),
    ("table_prefix", .text settings.tablePrefix),
    ("host", .text settings.host),
    ("port", .int settings.port)]

end Settings

/-- Settings that are read once and then kept. -/
structure SettingsCache where
  held : Option Settings := none
  /-- How often settings have been read without a problem. -/
  loads : Nat := 0

namespace SettingsCache

/-- The settings that are kept, or else those of the given sources, which are then kept. -/
def get (cache : SettingsCache) (environment : Environment) (file : Text) :
    Except (List FieldProblem) Settings × SettingsCache :=
  -- Problems are not kept
  match cache.held with
  | some settings => (.ok settings, cache)
  | none =>
    match Settings.load environment file with
    | .ok settings => (.ok settings, ⟨some settings, cache.loads + 1⟩)
    | .error problems => (.error problems, cache)

/-- Forgets the settings. -/
def clear (cache : SettingsCache) : SettingsCache := { cache with held := none }

end SettingsCache

end Tenancy
