import Tenancy.Store.Fault

/-!
# Kinds of errors

The store's own errors form a family, and callers may handle a kind of them together with broader
kinds. Every kind but one takes any arguments and shows them; an error about an unsupported type
of database takes the operation and the type, and keeps both.
-/
namespace Tenancy

/-- A kind of the store's own errors. -/
inductive ErrorKind where
  | workspaceStore
  | unsupportedDatabase
  | workspaceNotFound
  | serialization
  | deserialization
  | decoding
  deriving DecidableEq, Repr

namespace ErrorKind

def name : ErrorKind → String
  | .workspaceStore => "WorkspaceStoreError"
  | .unsupportedDatabase => "UnsupportedDatabaseError"
  | .workspaceNotFound => "WorkspaceNotFoundError"
  | .serialization => "SerializationError"
  | .deserialization => "DeserializationError"
  | .decoding => "DecodingError"

def all : List ErrorKind :=
  [.workspaceStore, .unsupportedDatabase, .workspaceNotFound, .serialization, .deserialization,
    .decoding]

def ofName? (name : Text) : Option ErrorKind :=
  all.find? fun kind => Text.ofString kind.name = name

/-- The broader kinds that an error of a kind can be handled as. -/
def broader : ErrorKind → List String
  | .workspaceNotFound => ["WorkspaceStoreError", "LookupError", "Exception"]
  | .serialization => ["WorkspaceStoreError", "ValueError", "Exception"]
  | .deserialization => ["WorkspaceStoreError", "ValueError", "Exception"]
  | _ => ["WorkspaceStoreError", "Exception"]

/-- The text of an error with arguments: nothing, the only one, or all of them. -/
def textOf : List Value → Text
  | [] => []
  | [argument] => argument.toText
  | arguments => (Value.tuple arguments).display

/-- An error with its text and the attributes that it keeps. -/
structure Instance where
  kind : ErrorKind
  text : Text
  attributes : List (String × Value)

/-- The error of a kind with arguments, or what is told of arguments that do not fit. -/
def instantiate (kind : ErrorKind) (arguments : List Value) : Except Report Instance :=
  if kind = .unsupportedDatabase then
    match arguments with
    | [operation, dbType] =>
      .ok ⟨kind, Fault.unsupportedMessage operation.toText dbType.toText,
        [("db_type", dbType), ("operation", operation)]⟩
    | [] =>
      .error (.of "TypeError"
        ("UnsupportedDatabaseError.__init__() missing 2 required positional arguments: "
          ++ "'operation' and 'db_type'"))
    | [_] =>
      .error (.of "TypeError"
        "UnsupportedDatabaseError.__init__() missing 1 required positional argument: 'db_type'")
    | several =>
      .error (.of "TypeError"
        ("UnsupportedDatabaseError.__init__() takes 3 positional arguments but "
          ++ Text.ofNat (several.length + 1) ++ " were given"))
  else .ok ⟨kind, textOf arguments, []⟩

end ErrorKind

end Tenancy
