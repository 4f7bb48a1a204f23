import Tenancy.Database.Driver
import Tenancy.Text.Literal
import Tenancy.Url.Option

/-!
# What an address says of connections

Some options of an address are numbers or truth values. An address of the embedded database names
nothing but a file. One of PostgreSQL may name several hosts, each with a port of its own, in one of
two ways: a list of hosts and one of ports, or a host with its port several times.
-/
namespace Tenancy

/-- Why an address does not say how to connect. -/
inductive ConnectionFault where
  | option (cause : ConversionFault)
  /-- An address of the embedded database that names more than a file. -/
  | notAFile (address : Text)
  /-- An address that cannot be written in the words about it. -/
  | unencodable (cause : EncodeFault)
  /-- Options for a file that is not named. -/
  | noFile
  /-- Ports are given in both ways. -/
  | mixedHosts
  /-- A host with more than one port. -/
  | severalPorts
  | hostCount
  /-- The display form of the ports that are no numbers. -/
  | ports (shown : Text)
  deriving DecidableEq, Repr

def ConnectionFault.report : ConnectionFault → Report
  | .option cause => cause.report
  | .notAFile shown =>
    .of "ArgumentError"
      ("Invalid SQLite URL: " ++ shown ++ "\nValid SQLite URL forms are:\n"
        ++ " sqlite:///:memory: (or, sqlite://)\n sqlite:///relative/path/to/file.db\n"
        ++ " sqlite:////absolute/path/to/file.db")
  | .unencodable cause => .of "UnicodeEncodeError" cause.message
  | .noFile =>
    .of "TypeError" "unsupported operand type(s) for +=: 'NoneType' and 'str'"
  | .mixedHosts =>
    .of "ArgumentError"
      ("Can't mix 'multihost' formats together; use \"host=h1,h2,h3&port=p1,p2,p3\" or "
        ++ "\"host=h1:p1&host=h2:p2&host=h3:p3\" separately")
  | .severalPorts => .of "ValueError" "too many values to unpack (expected 2)"
  | .hostCount => .of "ArgumentError" "number of hosts and ports don't match"
  | .ports shown => .of "ArgumentError" ("Received non-integer port arguments: " ++ shown)

namespace Url

def fileOptions : List (String × OptionKind) :=
  [("uri", .flag), ("timeout", .decimal), ("detect_types", .integer), ("check_same_thread", .flag),
    ("cached_statements", .integer)]

def mysqlOptions : List (String × OptionKind) :=
  [("compress", .flag), ("connect_timeout", .integer), ("read_timeout", .integer),
    ("write_timeout", .integer), ("client_flag", .integer), ("local_infile", .flag),
    ("use_unicode", .flag), ("ssl_check_hostname", .flag)]

/-- Whether an address names more than a file. -/
def namesServer (url : Url) : Bool :=
  url.user.any (!·.isEmpty) || url.host.any (!·.isEmpty) || url.password.any (!·.isEmpty)
    || url.port.any (· != 0)

def checkFile (url : Url) : Except ConnectionFault Unit := do
  if url.namesServer then
    let address ← (url.render true).mapError ConnectionFault.unencodable
    throw (.notAFile address)
  (url.checkOptions fileOptions).mapError ConnectionFault.option

/-- The hosts of an address, and the ports behind them, if the address gives hosts this way. -/
def hostsWithPorts? (url : Url) : Option (List (List Text)) :=
  match url.option? "host" with
  | some (.several hosts) => some (hosts.map (Text.splitOn (CodePoint.ofChar ':')))
  | _ => none

/-- The port of a host, as an option with a host several times gives it. -/
def portOf : List Text → Value
  | _ :: port :: _ => .text port
  | _ => .null

/-- The texts of ports that an address gives as a list. -/
def portList (url : Url) : List Value :=
  match url.option? "port" with
  | some (.single ports) => (Text.splitOn (CodePoint.ofChar ',') ports).map .text
  | some (.several ports) => ports.map .text
  | none => []

/-- Whether a port is missing, empty or a number. -/
def isPortText : Value → Bool
  | .text [] => true
  | .text t => t.toInt.toOption.isSome
  | _ => true

def checkPorts (ports : List Value) : Except ConnectionFault Unit :=
  if ports.all isPortText then .ok () else .error (.ports (Value.tuple ports).display)

/-- Refuses hosts and ports of PostgreSQL that do not go together. -/
def checkHosts (url : Url) : Except ConnectionFault Unit :=
  match url.hostsWithPorts? with
  | some hosts =>
    if hosts.all (2 < ·.length) then .error .severalPorts
    else if (url.option? "port").isSome then .error .mixedHosts
    else checkPorts (hosts.map portOf)
  | none => do
    let ports := url.portList
    checkPorts ports
    let hosts := match url.option? "host" with
      | some value => (Text.splitOn (CodePoint.ofChar ',') value.toText).length
      | none => 0
    let several := 1 < hosts || 1 < ports.length
    if !ports.isEmpty && several && hosts != ports.length then throw .hostCount

end Url

/-- Refuses an address that does not say how its driver is to connect. -/
def Driver.check (driver : Driver) (url : Url) : Except ConnectionFault Unit :=
  match driver.installed with
  | .pysqlite => url.checkFile
  | .psycopg => url.checkHosts
  | .psycopgAsync => url.checkHosts
  | .pymysql => (url.checkOptions Url.mysqlOptions).mapError ConnectionFault.option

end Tenancy
