import Tenancy.Json.Dump
import Tenancy.Json.Reader
import Tenancy.Record.Problem
import Tenancy.Report
import Tenancy.Sql.Dialect
import Tenancy.Value.Convert

/-!
# Faults of the store

Five kinds of fault are the store's own: an operation that the type of database has no words for,
a workspace that is not there, settings that cannot be stored, stored settings that are no
document, and a result row of the wrong shape. Everything else comes from below (the database, the
conversion of a value, the check of a record) and is passed on unchanged.
-/
namespace Tenancy

/-- A failure of a step. -/
inductive Fault where
  | unsupportedDatabase (operation dbType : Text)
  | workspaceNotFound (id : Text)
  | unserializableSettings (cause : Unserializable)
  | unreadableSettings (id : Text) (cause : Json.SyntaxFault)
  | unexpectedRow (shown : Text)
  /-- The fields of a record do not fit. -/
  | invalidRecord (problems : List FieldProblem)
  /-- A reply cannot be written. -/
  | unprintable (cause : DumpFault)
  /-- A document cannot be read, and nothing says so in other words. -/
  | unreadable (cause : Json.ReadFault)
  /-- Something other than text or octets is to be read as a document. -/
  | notADocument (typeName : String)
  | conversion (cause : ConversionFault)
  | unencodable (cause : EncodeFault)
  | undecodable (cause : DecodeFault)
  /-- A reply of numbers that are not finite. -/
  | notFinite
  /-- The database reports a failure. -/
  | database (kind message : Text)
  /-- The embedded database has no words for the statement. -/
  | notCompiled
  | unknownValueColumns (names : List Text)
  /-- A table has no column of the name. -/
  | unknownColumn (name : Text)
  | emptyUpdate (dialect : Dialect)
  /-- A value has the name of an argument that is there already. -/
  | argumentTwice (function argument : String)
  /-- A collection stands where a name is looked up. -/
  | unhashable (typeName : String)
  | noRow
  /-- More than one row; whether none would have been fine. -/
  | severalRows (noneAllowed : Bool)
  | emptyRow
  /-- A row has more or fewer values than are read from it. -/
  | rowWidth (expected actual : Nat)
  | notIterable (typeName : String)
  /-- An integer does not fit the embedded database. -/
  | integerTooLarge
  /-- An integer does not fit a setting of a connection. -/
  | integerTooWide
  | isolationLevel
  /-- A file of a database has no name. -/
  | noFileName
  | nullInFileName
  deriving DecidableEq

namespace Fault

/-- Whether a fault is one that the database or its driver reports. -/
def isFromDatabase : Fault → Bool
  | .database _ _ => true
  | .notCompiled => true
  | .unknownValueColumns _ => true
  | .noRow => true
  | .severalRows _ => true
  | _ => false

/-- What is told of a document that cannot be read. -/
def reportUnreadable : Json.ReadFault → Report
  | .malformed fault => .of "JSONDecodeError" fault.message
  | .integerTooLong digits => .of "ValueError" (tooManyDigitsMessage digits)
  | .undecodable fault => .of "UnicodeDecodeError" fault.message

/-- The words for an operation that a type of database does not support. -/
def unsupportedMessage (operation dbType : Text) : Text :=
  operation ++ " - method is unsupported on current database (" ++ dbType
    ++ "). Supported databases are - MySQL and PostgreSQL"

def unserializableMessage (cause : Unserializable) : Text :=
  "Workspace settings are not JSON serializable: " ++ cause.message

def report : Fault → Report
  | .unsupportedDatabase operation dbType =>
    .of "UnsupportedDatabaseError" (unsupportedMessage operation dbType)
  | .workspaceNotFound id => .of "WorkspaceNotFoundError" id
  | .unserializableSettings cause => .of "SerializationError" (unserializableMessage cause)
  | .unreadableSettings id cause =>
    .of "DeserializationError"
      ("Stored settings for workspace '" ++ id ++ "' are not valid JSON: " ++ cause.message)
  | .unexpectedRow shown => .of "DecodingError" ("Unexpected user workspace row: " ++ shown)
  | .invalidRecord problems => .of "ValidationError" (FieldProblem.messages problems)
  | .unprintable cause => cause.report
  | .unreadable cause => reportUnreadable cause
  | .notADocument typeName =>
    .of "TypeError"
      ("the JSON object must be str, bytes or bytearray, not " ++ Text.ofString typeName)
  | .conversion cause => cause.report
  | .unencodable cause => .of "UnicodeEncodeError" cause.message
  | .undecodable cause => .of "UnicodeDecodeError" cause.message
  | .notFinite => .of "ValueError" Unserializable.notFinite.message
  | .database kind message => ⟨kind, some message⟩
  | .notCompiled => ⟨"UnsupportedCompilationError", none⟩
  | .unknownValueColumns names =>
    .of "CompileError" ("Unconsumed column names: " ++ Text.join ", " names)
  | .unknownColumn name => .of "KeyError" name.quoted
  | .emptyUpdate .mysql => .of "ValueError" "update parameter dictionary must not be empty"
  | .emptyUpdate _ => .of "ValueError" "set parameter dictionary must not be empty"
  | .argumentTwice function argument =>
    .of "TypeError"
      (Text.ofString function ++ "() got multiple values for argument '" ++ Text.ofString argument
        ++ "'")
  | .unhashable typeName => .of "TypeError" ("unhashable type: '" ++ Text.ofString typeName ++ "'")
  | .noRow => .of "NoResultFound" "No row was found when one was required"
  | .severalRows true =>
    .of "MultipleResultsFound" "Multiple rows were found when one or none was required"
  | .severalRows false =>
    .of "MultipleResultsFound" "Multiple rows were found when exactly one was required"
  | .emptyRow => .of "IndexError" "tuple index out of range"
  | .rowWidth expected actual =>
    if expected < actual then
      .of "ValueError" ("too many values to unpack (expected " ++ Text.ofNat expected ++ ")")
    else
      .of "ValueError" ("not enough values to unpack (expected " ++ Text.ofNat expected ++ ", got "
        ++ Text.ofNat actual ++ ")")
  | .notIterable typeName =>
    .of "TypeError" ("'" ++ Text.ofString typeName ++ "' object is not iterable")
  | .integerTooLarge => .of "OverflowError" "Python int too large to convert to SQLite INTEGER"
  | .integerTooWide => .of "OverflowError" "Python int too large to convert to C int"
  | .isolationLevel =>
    .of "ValueError"
      "isolation_level string must be '', 'DEFERRED', 'IMMEDIATE', or 'EXCLUSIVE'"
  | .noFileName =>
    .of "TypeError" "expected str, bytes or os.PathLike object, not NoneType"
  | .nullInFileName => .of "ValueError" "embedded null byte"

end Fault

end Tenancy
