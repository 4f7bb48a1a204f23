import Tenancy.Database.Connection
import Tenancy.Database.FileAddress
import Tenancy.Store.World

/-!
# Where an embedded database is

An address leads to a file or, if it names none, into memory. With the option `uri` the name is
passed on as it stands, with those options that are not the connection's own behind it, and may be
an address of its own. Arguments that no connection can be made with come to light only when one is
taken.
-/
namespace Tenancy

/-- Where a database is. -/
inductive Location where
  | memory
  | file (address : FileAddress)
  /-- No connection can be made. -/
  | unreachable (fault : Fault)

namespace Location

def ownOptions : List String :=
  ["uri", "timeout", "isolation_level", "detect_types", "check_same_thread", "cached_statements"]

/-- The name in memory. -/
def memoryName : Text := ":memory:"

/-- The options of an address that are not the connection's own, in the order of their names. -/
def otherOptions (url : Url) : List Text :=
  let others := (url.withoutOptions ownOptions).options.mergeSort fun a b => Text.le a.1 b.1
  others.map fun (name, values) =>
    name ++ "=" ++ match values with
      | [value] => value
      | values => (UrlOption.several values).toText

/-- The name of the file that an address leads to, if it has one. -/
def fileName? (url : Url) : Except ConnectionFault (Option Text) :=
  if url.holds "uri" then
    match url.database, otherOptions url with
    | name, [] => .ok name
    | none, _ => .error .noFile
    | some name, options => .ok (some (name ++ "?" ++ Text.join "&" options))
  else .ok (some ((url.database.filter (!·.isEmpty)).getD memoryName))

/-- The fault of an integer that a connection cannot take. -/
def integerFault? (url : Url) (name : String) : Option Fault :=
  match (url.option? name).map UrlOption.toInt with
  | some (.ok n) => if -2 ^ 31 ≤ n ∧ n < 2 ^ 31 then none else some .integerTooWide
  | _ => none

/-- The fault of an isolation level that there is not. -/
def isolationFault? (url : Url) : Option Fault :=
  match url.option? "isolation_level" with
  | some (.several _) => some .isolationLevel
  | _ => none

/-- The fault of a file's name that cannot be passed on. -/
def nameFault? : Option Text → Option Fault
  | none => some .noFileName
  | some name =>
    match name.encodeFault? with
    | some fault => some (.unencodable fault)
    | none => if name.any (·.val == 0) then some .nullInFileName else none

/-- The first fault of the arguments of a connection, of which the name comes last. -/
def argumentFault? (url : Url) (name : Option Text) : Option Fault :=
  [integerFault? url "detect_types", isolationFault? url, integerFault? url "cached_statements",
    nameFault? name].findSome? id

/-- Where a file is, or nowhere if nothing of it is kept. -/
def ofAddress (address : FileAddress) : Location :=
  if address.mode = .memory ∨ address.path = [] ∨ address.path = memoryName then .memory
  else .file address

/-- Where a name leads; with `isAddress`, the name may be an address. -/
def ofName (isAddress : Bool) (name : Text) : Location :=
  if isAddress then
    match FileAddress.read name with
    | .ok address => ofAddress address
    | .error fault => .unreachable (.database "OperationalError" fault.message)
  else ofAddress ⟨name, .creating, false⟩

def ofUrl (url : Url) : Except ConnectionFault Location := do
  let name ← fileName? url
  match argumentFault? url name with
  | some fault => return .unreachable fault
  | none => return ofName (url.holds "uri") (name.getD [])

end Location

/-- Where the databases of a driver are. -/
def Driver.locate (driver : Driver) (url : Url) : Except ConnectionFault Location :=
  -- A server is never within reach
  match driver.installed with
  | .pysqlite => Location.ofUrl url
  | _ => .ok (.unreachable (.database "OperationalError" "no server is within reach"))

/-- A place with databases, of which one at a time is open. -/
class Host (δ : Type) extends Engine δ where
  /-- Opens the database at a location. -/
  openAt : Location → δ → δ

end Tenancy
