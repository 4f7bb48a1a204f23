import Tenancy.Database.Package
import Tenancy.Report
import Tenancy.Url.Basic

/-!
# Drivers

An address names a backend and, behind a plus sign, the driver to use; without it the backend's
usual driver is used, which also has the name `base`. A driver has to be installed.
-/
namespace Tenancy

/-- Why an address leads to no driver. -/
inductive DriverFault where
  /-- There is no such backend, or nothing of the name in its package. -/
  | unknown (name : Text)
  /-- More than one driver is named. -/
  | several
  | uninstalled (moduleName : String)
  /-- What is there instead. -/
  | other (found : PackageItem)
  deriving DecidableEq, Repr

namespace DriverFault

/-- How messages call what is there instead of a driver. -/
def subject : PackageItem → Text
  | .part path => "module 'sqlalchemy.dialects." ++ path ++ "'"
  | .type name => "type object '" ++ name ++ "'"
  | .object typeName => "'" ++ Text.ofString typeName ++ "' object"
  | .driver _ => []
  | .uninstalled _ => []

def report : DriverFault → Report
  | .unknown name =>
    .of "NoSuchModuleError" ("Can't load plugin: sqlalchemy.dialects:" ++ name)
  | .several => .of "ValueError" "too many values to unpack (expected 2)"
  | .uninstalled name =>
    .of "ModuleNotFoundError" ("No module named '" ++ Text.ofString name ++ "'")
  | .other found => .of "AttributeError" (subject found ++ " has no attribute 'dialect'")

end DriverFault

/-- An installed driver of a backend. -/
structure Driver where
  backend : Text
  installed : InstalledDriver
  deriving DecidableEq, Repr

namespace Driver

/-- The driver of a backend under a name; `shown` is how both stand in messages. -/
def find (backend name shown : Text) : Except DriverFault Driver :=
  match Package.ofBackend? backend name with
  | none => .error (.unknown shown)
  | some (.driver installed) => .ok ⟨backend, installed⟩
  | some (.uninstalled moduleName) => .error (.uninstalled moduleName)
  | some found => .error (.other found)

def ofUrl (url : Url) : Except DriverFault Driver :=
  let pieces := Text.splitOn (CodePoint.ofChar '+') url.driver
  let shown := Text.join "." pieces
  match pieces with
  | [backend] => find backend "base" shown
  | [backend, name] => find backend name shown
  | _ => .error .several

def name (driver : Driver) : String :=
  match driver.installed with
  | .pysqlite => "pysqlite"
  | .psycopg => "psycopg"
  | .psycopgAsync => "psycopg"
  | .pymysql => "pymysql"

def typeName (driver : Driver) : String :=
  match driver.installed with
  | .pysqlite => "SQLiteDialect_pysqlite"
  | .psycopg => "PGDialect_psycopg"
  | .psycopgAsync => "PGDialectAsync_psycopg"
  | .pymysql =>
    if driver.backend = "mariadb" then "MariaDBDialect_pymysql" else "MySQLDialect_pymysql"

end Driver

end Tenancy
