import Tenancy.Database.Location
import Tenancy.Database.PoolOptions
import Tenancy.Url.Reader

/-!
# Connection pools

A pool is opened for a database address. Connections to a server are tested before they are handed
out and are renewed after an hour; the embedded database needs neither. Options override these
settings. What is wrong comes to light in a fixed order: the address, plugins, the driver, what the
address says of connections, the options of the pool, options that nothing takes, and the echo.
-/
namespace Tenancy

/-- Why a pool cannot be opened. -/
inductive PoolFault where
  | address (cause : Url.Fault)
  /-- No plugin is installed. -/
  | plugin (name : Text)
  | driver (cause : DriverFault)
  | connection (cause : ConnectionFault)
  | option (cause : PoolOptionFault)
  deriving DecidableEq, Repr

def PoolFault.report : PoolFault → Report
  | .address .malformed => .of "ArgumentError" (Url.Fault.message .malformed)
  | .address fault => .of "ValueError" fault.message
  | .plugin name => .of "NoSuchModuleError" ("Can't load plugin: sqlalchemy.plugins:" ++ name)
  | .driver cause => cause.report
  | .connection cause => cause.report
  | .option cause => cause.report

/-- An open pool. -/
structure Pool where
  /-- The address as it was given. -/
  address : Url
  /-- The address less its plugins. -/
  url : Url
  driver : Driver
  /-- Where its connections lead. -/
  location : Location
  echo : Echo
  /-- Whether a connection is tested before it is handed out. -/
  prePing : Value
  /-- After how many seconds a connection is renewed; never, if negative. -/
  recycle : Value

namespace Pool

def defaults (url : Url) : PoolOptions :=
  (Text.ofString "echo", .bool false)
    :: if url.backend = "sqlite" then []
      else [(Text.ofString "pool_pre_ping", .bool true), (Text.ofString "pool_recycle", .int 3600)]

/-- Refuses plugins, of which none is installed. -/
def checkPlugins (url : Url) (options : PoolOptions) : Except PoolFault Unit := do
  match url.option? "plugin" with
  | some (.single name) => throw (.plugin name)
  | some (.several (name :: _)) => throw (.plugin name)
  | _ => pure ()
  match options.get? "plugins" with
  | none => return ()
  | some value =>
    match value.elements? with
    | none => throw (.option (.notIterable value.typeName))
    | some [] => return ()
    | some (name :: _) =>
      match name.unhashable? with
      | some typeName => throw (.option (.unhashable typeName))
      | none => throw (.plugin name.toText)

def checkStrategy (options : PoolOptions) : Except PoolOptionFault Unit := do
  if (options.get? "url").isSome then throw (.twice "create_engine" "url")
  match options.get? "strategy" with
  | none => return ()
  | some (.text t) =>
    throw (if t = "mock" then .noExecutor else .unknownStrategy t.quoted)
  | some value => throw (.unknownStrategy value.display)

/-- Refuses options that do not fit a kind of pool. -/
def checkOptions (driver : Driver) (pool : PoolKind) (options : PoolOptions) :
    Except PoolOptionFault Unit := do
  options.check "connect_args" PoolOptions.checkArguments
  options.checkForeign "pool" "_dialect"
  options.checkForeign "poolclass" "__dict__"
  options.check "echo_pool" fun value => (PoolOptions.readEcho value).map fun _ => ()
  options.check "pool_reset_on_return" PoolOptions.checkReset
  options.check "pool_size" (PoolOptions.checkSize pool)
  options.check "future" fun value => if value.isPresent then .ok () else .error .oldStyle
  match options.leftOver driver pool with
  | [] => return ()
  | names => throw (.leftOver names driver.typeName pool.typeName)

def ofAddress (address : Text) (given : PoolOptions) : Except PoolFault Pool := do
  if (given.get? "database_url").isSome then
    throw (.option (.twice "create_engine" "database_url"))
  let named ← (Url.read address).mapError PoolFault.address
  let options := given.foldl (fun options (name, value) => options.set name value) (defaults named)
  (checkStrategy options).mapError PoolFault.option
  checkPlugins named options
  let url := named.withoutOptions ["plugin", "plugins"]
  let driver ← (Driver.ofUrl url).mapError PoolFault.driver
  (options.checkForeign "module" "paramstyle").mapError PoolFault.option
  (driver.check url).mapError PoolFault.connection
  let location ← (driver.locate url).mapError PoolFault.connection
  (checkOptions driver (driver.poolKind url) options).mapError PoolFault.option
  let echo ← (PoolOptions.readEcho ((options.get? "echo").getD .null)).mapError PoolFault.option
  return {
    address := named
    url, driver, location, echo
    prePing := (options.get? "pool_pre_ping").getD (.bool false)
    recycle := (options.get? "pool_recycle").getD (.int (-1)) }

end Pool

end Tenancy
