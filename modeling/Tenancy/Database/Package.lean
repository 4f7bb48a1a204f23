import Tenancy.Text.Basic

/-!
# Packages of drivers

Every backend has a package. Under some names of a package there are drivers, and under others its
parts, types and functions, or what every package has. The backend `mariadb` has no package of its
own: it takes drivers and parts from that of `mysql`.
-/
namespace Tenancy

/-- The drivers that are installed. -/
inductive InstalledDriver where
  | pysqlite
  | psycopg
  | psycopgAsync
  | pymysql
  deriving DecidableEq, Repr

/-- What there is under a name. -/
inductive PackageItem where
  | driver (driver : InstalledDriver)
  /-- A driver that needs a module which is not installed. -/
  | uninstalled (moduleName : String)
  | part (path : Text)
  | type (name : Text)
  /-- Something else, of a type. -/
  | object (typeName : String)
  deriving DecidableEq, Repr

/-- What a package holds, by name. -/
structure Package where
  name : String
  drivers : List (String × PackageItem)
  parts : List String
  types : List String
  functions : List String
  /-- What has another name of its own. -/
  renamed : List (String × PackageItem)

namespace Package

def sqlite : Package where
  name := "sqlite"
  drivers :=
    [("base", .driver .pysqlite), ("pysqlite", .driver .pysqlite),
      ("aiosqlite", .uninstalled "aiosqlite"), ("pysqlcipher", .uninstalled "pysqlcipher3")]
  parts := ["dml", "json"]
  types :=
    ["BLOB", "BOOLEAN", "CHAR", "DATE", "DATETIME", "DECIMAL", "FLOAT", "INTEGER", "Insert", "JSON",
      "NUMERIC", "REAL", "SMALLINT", "TEXT", "TIME", "TIMESTAMP", "VARCHAR"]
  functions := ["insert"]
  renamed := [("dialect", .type "SQLiteDialect_pysqlite")]

def postgresql : Package where
  name := "postgresql"
  drivers :=
    [("base", .driver .psycopg), ("psycopg", .driver .psycopg),
      ("psycopg_async", .driver .psycopgAsync), ("psycopg2", .uninstalled "psycopg2"),
      ("psycopg2cffi", .uninstalled "psycopg2cffi"), ("pg8000", .uninstalled "pg8000"),
      ("asyncpg", .uninstalled "asyncpg")]
  parts :=
    ["_psycopg_common", "bitstring", "dml", "ext", "json", "named_types", "operators",
      "pg_catalog", "ranges", "types"]
  types :=
    ["ARRAY", "AbstractMultiRange", "AbstractRange", "AbstractSingleRange", "BIGINT", "BIT",
      "BOOLEAN", "BYTEA", "BitString", "CHAR", "CIDR", "CITEXT", "CreateDomainType",
      "CreateEnumType", "DATE", "DATEMULTIRANGE", "DATERANGE", "DOMAIN", "DOUBLE_PRECISION",
      "DropDomainType", "DropEnumType", "ENUM", "ExcludeConstraint", "FLOAT", "HSTORE", "INET",
      "INT4MULTIRANGE", "INT4RANGE", "INT8MULTIRANGE", "INT8RANGE", "INTEGER", "INTERVAL",
      "Insert", "JSON", "JSONB", "JSONPATH", "MACADDR", "MACADDR8", "MONEY", "MultiRange",
      "NUMERIC", "NUMMULTIRANGE", "NUMRANGE", "NamedType", "OID", "REAL", "REGCLASS", "REGCONFIG",
      "Range", "SMALLINT", "TEXT", "TIME", "TIMESTAMP", "TSMULTIRANGE", "TSQUERY", "TSRANGE",
      "TSTZMULTIRANGE", "TSTZRANGE", "TSVECTOR", "UUID", "VARCHAR", "aggregate_order_by", "array",
      "hstore", "phraseto_tsquery", "plainto_tsquery", "to_tsquery", "to_tsvector", "ts_headline",
      "websearch_to_tsquery"]
  functions := ["All", "Any", "array_agg", "distinct_on", "insert"]
  renamed :=
    [("dialect", .type "PGDialect_psycopg"), ("ModuleType", .type "module"),
      ("arraylib", .part "postgresql.array")]

def mysql : Package where
  name := "mysql"
  drivers :=
    [("base", .uninstalled "MySQLdb"), ("mysqldb", .uninstalled "MySQLdb"),
      ("pymysql", .driver .pymysql), ("mysqlconnector", .uninstalled "mysql"),
      ("asyncmy", .uninstalled "asyncmy"), ("aiomysql", .uninstalled "aiomysql"),
      ("cymysql", .uninstalled "cymysql"), ("pyodbc", .uninstalled "pyodbc"),
      ("mariadbconnector", .uninstalled "mariadb")]
  parts :=
    ["_mariadb_shim", "dml", "enumerated", "expression", "json", "mariadb", "reflection",
      "reserved_words", "types"]
  types :=
    ["BIGINT", "BINARY", "BIT", "BLOB", "BOOLEAN", "CHAR", "DATE", "DATETIME", "DECIMAL", "DOUBLE",
      "ENUM", "FLOAT", "INET4", "INET6", "INTEGER", "Insert", "JSON", "LONGBLOB", "LONGTEXT",
      "MEDIUMBLOB", "MEDIUMINT", "MEDIUMTEXT", "NCHAR", "NUMERIC", "NVARCHAR", "REAL", "SET",
      "SMALLINT", "TEXT", "TIME", "TIMESTAMP", "TINYBLOB", "TINYINT", "TINYTEXT", "VARBINARY",
      "VARCHAR", "YEAR", "match"]
  functions := ["insert", "limit"]
  renamed := [("dialect", .type "MySQLDialect_mysqldb")]

def oracle : Package where
  name := "oracle"
  drivers :=
    [("base", .uninstalled "oracledb"), ("oracledb", .uninstalled "oracledb"),
      ("oracledb_async", .uninstalled "oracledb"), ("cx_oracle", .uninstalled "cx_Oracle")]
  parts := ["dictionary", "types", "vector"]
  types :=
    ["BFILE", "BINARY_DOUBLE", "BINARY_FLOAT", "BLOB", "BOOLEAN", "CHAR", "CLOB", "DATE",
      "DOUBLE_PRECISION", "FLOAT", "INTERVAL", "LONG", "NCHAR", "NCLOB", "NUMBER", "NVARCHAR",
      "NVARCHAR2", "RAW", "REAL", "ROWID", "SparseVector", "TIMESTAMP", "VARCHAR", "VARCHAR2",
      "VECTOR", "VectorIndexConfig"]
  functions := []
  renamed := [("dialect", .type "OracleDialect_oracledb"), ("ModuleType", .type "module")]

def mssql : Package where
  name := "mssql"
  drivers :=
    [("base", .uninstalled "pyodbc"), ("pyodbc", .uninstalled "pyodbc"),
      ("pymssql", .uninstalled "pymssql"), ("aioodbc", .uninstalled "aioodbc"),
      ("mssqlpython", .uninstalled "mssql_python")]
  parts := ["information_schema", "json"]
  types :=
    ["BIGINT", "BINARY", "BIT", "CHAR", "DATE", "DATETIME", "DATETIME2", "DATETIMEOFFSET",
      "DECIMAL", "DOUBLE_PRECISION", "FLOAT", "IMAGE", "INTEGER", "JSON", "MONEY", "NCHAR",
      "NTEXT", "NUMERIC", "NVARCHAR", "REAL", "ROWVERSION", "SMALLDATETIME", "SMALLINT",
      "SMALLMONEY", "SQL_VARIANT", "TEXT", "TIME", "TIMESTAMP", "TINYINT", "UNIQUEIDENTIFIER",
      "VARBINARY", "VARCHAR", "XML"]
  functions := ["try_cast"]
  renamed := [("dialect", .type "MSDialect_pyodbc")]

def all : List Package := [sqlite, postgresql, mysql, oracle, mssql]

/-- What every package has under names of this kind, by the name of its type. -/
def ownNames : List (String × List String) :=
  [("str", ["__cached__", "__file__", "__name__", "__package__"]),
    ("tuple", ["__all__"]), ("list", ["__path__"]), ("NoneType", ["__doc__"]),
    ("dict", ["__annotations__", "__builtins__", "__dict__"]),
    ("SourceFileLoader", ["__loader__"]), ("ModuleSpec", ["__spec__"]),
    ("method-wrapper",
      ["__delattr__", "__eq__", "__ge__", "__getattribute__", "__gt__", "__hash__", "__init__",
        "__le__", "__lt__", "__ne__", "__repr__", "__setattr__", "__str__"]),
    ("builtin_function_or_method",
      ["__dir__", "__format__", "__getstate__", "__init_subclass__", "__new__", "__reduce__",
        "__reduce_ex__", "__sizeof__", "__subclasshook__"])]

def isAmong (names : List String) (name : Text) : Bool := names.any (Text.ofString · == name)

/-- What every package has under a name. -/
def ownItem? (name : Text) : Option PackageItem :=
  if name = "__class__" then some (.type "module")
  else (ownNames.find? fun (_, names) => isAmong names name).map fun (typeName, _) =>
    .object typeName

/-- The driver or part of a package under a name. -/
def module? (package : Package) (name : Text) : Option PackageItem :=
  match package.drivers.find? fun (other, _) => Text.ofString other == name with
  | some (_, entry) => some entry
  | none =>
    if isAmong package.parts name then
      some (.part (Text.ofString package.name ++ "." ++ name))
    else none

/-- What a package has under a name. -/
def item? (package : Package) (name : Text) : Option PackageItem :=
  match package.module? name with
  | some entry => some entry
  | none =>
    if isAmong package.types name then some (.type name)
    else if isAmong package.functions name then some (.object "function")
    else match package.renamed.find? fun (other, _) => Text.ofString other == name with
      | some (_, entry) => some entry
      | none => ownItem? name

def ofBackend? (backend name : Text) : Option PackageItem :=
  if backend = "mariadb" then mysql.module? name
  else (all.find? fun package => Text.ofString package.name == backend).bind (·.item? name)

end Package

end Tenancy
