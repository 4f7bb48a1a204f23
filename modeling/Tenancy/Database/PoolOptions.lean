import Tenancy.Database.Connection
import Tenancy.Value.Display

/-!
# Options of a pool

A pool is opened with options by name. Which of them there are hangs on the driver and on the kind
of pool; options that nothing takes are refused all together. A few have to have a value of a
certain kind.
-/
namespace Tenancy

/-- The ways of keeping connections. -/
inductive PoolKind where
  /-- One for every thread. -/
  | threads
  | queue
  | asyncQueue
  deriving DecidableEq, Repr

/-- Whether statements are logged, and their rows as well. -/
inductive Echo where
  | off
  | on
  | debug
  deriving DecidableEq, Repr

/-- Why an option is refused. -/
inductive PoolOptionFault where
  /-- An option that stands for the address. -/
  | twice (function name : String)
  | unknownStrategy (shown : Text)
  | noExecutor
  /-- An echo of another value, in its display form. -/
  | unknownEcho (shown : Text)
  | unhashable (typeName : String)
  | unknownReset (shown : Text)
  /-- A size that is no number. -/
  | size (typeName : String)
  /-- Something that lacks what it is asked for. -/
  | lacks (typeName wanted : String)
  | oldStyle
  /-- Options that nothing takes. -/
  | leftOver (names : List Text) (driver pool : String)
  | notIterable (typeName : String)
  /-- An entry of connection arguments that is no pair. -/
  | notAPair (position : Nat) (length : Option Nat)
  deriving DecidableEq, Repr

def PoolOptionFault.report : PoolOptionFault → Report
  | .twice function name =>
    .of "TypeError" (Text.ofString function ++ "() got multiple values for argument '"
      ++ Text.ofString name ++ "'")
  | .unknownStrategy shown => .of "ArgumentError" ("unknown strategy: " ++ shown)
  | .noExecutor =>
    .of "TypeError" "create_mock_engine() missing 1 required positional argument: 'executor'"
  | .unknownEcho shown => .of "KeyError" shown
  | .unhashable typeName => .of "TypeError" ("unhashable type: '" ++ Text.ofString typeName ++ "'")
  | .unknownReset shown => .of "ArgumentError" ("Invalid value for 'reset_on_return': " ++ shown)
  | .size typeName =>
    .of "TypeError"
      ("unsupported operand type(s) for -: 'int' and '" ++ Text.ofString typeName ++ "'")
  | .lacks typeName wanted =>
    .of "AttributeError" ("'" ++ Text.ofString typeName ++ "' object has no attribute '"
      ++ Text.ofString wanted ++ "'")
  | .oldStyle =>
    .of "ArgumentError"
      "The 'future' parameter passed to create_engine() may only be set to True."
  | .leftOver names driver pool =>
    .of "TypeError"
      ("Invalid argument(s) " ++ Text.join "," (names.map fun name => "'" ++ name ++ "'")
        ++ " sent to create_engine(), using configuration " ++ Text.ofString driver ++ "/"
        ++ Text.ofString pool ++ "/Engine.  Please check that the keyword arguments are "
        ++ "appropriate for this combination of components.")
  | .notIterable typeName =>
    .of "TypeError" ("'" ++ Text.ofString typeName ++ "' object is not iterable")
  | .notAPair position none =>
    .of "TypeError" ("cannot convert dictionary update sequence element #" ++ Text.ofNat position
      ++ " to a sequence")
  | .notAPair position (some length) =>
    .of "ValueError" ("dictionary update sequence element #" ++ Text.ofNat position
      ++ " has length " ++ Text.ofNat length ++ "; 2 is required")

/-- The options of a pool by name. -/
abbrev PoolOptions := List (Text × Value)

def PoolKind.typeName : PoolKind → String
  | .threads => "SingletonThreadPool"
  | .queue => "QueuePool"
  | .asyncQueue => "AsyncAdaptedQueuePool"

/-- The kind of pool that a driver keeps for an address. -/
def Driver.poolKind (driver : Driver) (url : Url) : PoolKind :=
  -- Connections to a database in memory are kept apart
  match driver.installed with
  | .pysqlite =>
    if url.database.any fun name => !name.isEmpty && name != Text.ofString ":memory:" then
      if url.option? "mode" = some (.single "memory") then .threads else .queue
    else .threads
  | .psycopgAsync => .asyncQueue
  | _ => .queue

namespace PoolOptions

/-- The value of an option, if it is given. -/
def get? (options : PoolOptions) (name : String) : Option Value :=
  options.lookup (Text.ofString name)

/-- Sets an option; one that is given already keeps its place. -/
def set (name : Text) (value : Value) : PoolOptions → PoolOptions
  | [] => [(name, value)]
  | (other, old) :: rest =>
    if other = name then (other, value) :: rest else (other, old) :: set name value rest

def general : List String :=
  ["plugins", "empty_in_strategy", "_is_async", "_coerce_config", "module", "enable_from_linting",
    "connect_args", "pool", "creator", "poolclass", "future", "_initialize", "logging_name", "echo",
    "query_cache_size", "execution_options", "hide_parameters"]

def ofDrivers : List String :=
  ["paramstyle", "isolation_level", "dbapi", "implicit_returning", "supports_native_boolean",
    "max_identifier_length", "label_length", "insertmanyvalues_page_size", "use_insertmanyvalues",
    "compiler_linting", "server_side_cursors", "skip_autocommit_rollback", "json_serializer",
    "json_deserializer"]

def ofDriver : InstalledDriver → List String
  | .pysqlite => ["native_datetime", "_json_serializer", "_json_deserializer"]
  | .psycopg => ["native_inet_types", "client_encoding", "use_native_hstore"]
  | .psycopgAsync => ["native_inet_types", "client_encoding", "use_native_hstore"]
  | .pymysql => ["is_mariadb"]

def ofPools : List String :=
  ["pool_recycle", "echo_pool", "pool_logging_name", "pool_reset_on_return", "pool_events",
    "pool_pre_ping", "pool_size", "dialect", "_dispatch"]

def ofPool : PoolKind → List String
  | .threads => []
  | _ => ["max_overflow", "pool_timeout", "pool_use_lifo"]

/-- The names of options that nothing takes, in the order in which they are given. -/
def leftOver (driver : Driver) (pool : PoolKind) (options : PoolOptions) : List Text :=
  let known :=
    general ++ ofDrivers ++ ofDriver driver.installed ++ ofPools ++ ofPool pool
  (options.map (·.1)).filter fun name => !known.any (Text.ofString · == name)

/-- Whether a value is one of a list by its meaning: a number may stand for a truth value. -/
def isOneOf (values : List Value) (value : Value) : Bool := values.any value.sameKey

/-- The echo that a value asks for. -/
def readEcho (value : Value) : Except PoolOptionFault Echo :=
  if isOneOf [.null, .bool false] value then .ok .off
  else if isOneOf [.bool true] value then .ok .on
  else if isOneOf [.text "debug"] value then .ok .debug
  else match value.unhashable? with
    | some typeName => .error (.unhashable typeName)
    | none => .error (.unknownEcho value.display)

/-- Refuses a way of handing back connections that there is not. -/
def checkReset (value : Value) : Except PoolOptionFault Unit :=
  if isOneOf [.text "rollback", .bool true, .text "none", .null, .bool false, .text "commit"] value
  then .ok ()
  else .error (.unknownReset value.display)

def checkSize (pool : PoolKind) (value : Value) : Except PoolOptionFault Unit :=
  if pool = .threads || value.number?.isSome then .ok () else .error (.size value.typeName)

/-- Refuses entries that are no pairs; the first one has a position. -/
def checkPairs (position : Nat) : List Value → Except PoolOptionFault Unit
  | [] => .ok ()
  | entry :: rest =>
    match entry.elements? with
    | none => .error (.notAPair position none)
    | some [key, _] =>
      match key.unhashable? with
      | some typeName => .error (.unhashable typeName)
      | none => checkPairs (position + 1) rest
    | some members => .error (.notAPair position (some members.length))

/-- Refuses connection arguments that are no dictionary and cannot be made one. -/
def checkArguments (value : Value) : Except PoolOptionFault Unit :=
  match value, value.elements? with
  | .dict _, _ => .ok ()
  | .cycleEntry, _ => .ok ()
  | value, none => .error (.notIterable value.typeName)
  | _, some entries => checkPairs 0 entries

/-- Refuses an option that is there and not null: it would have to be something that no value is. -/
def checkForeign (name wanted : String) (options : PoolOptions) :
    Except PoolOptionFault Unit :=
  match options.get? name with
  | none => .ok ()
  | some .null => .ok ()
  | some value => .error (.lacks value.typeName wanted)

def check (name : String) (test : Value → Except PoolOptionFault Unit) (options : PoolOptions) :
    Except PoolOptionFault Unit :=
  match options.get? name with
  | none => .ok ()
  | some value => test value

end PoolOptions

end Tenancy
