import Tenancy.Value

/-!
# Log records

A record has a level, a message and a context of named values. Records of the store name the type
of its database and, where one is concerned, the workspace.
-/
namespace Tenancy

/-- A level of the log, in ascending order of weight. -/
inductive LogLevel where
  | trace
  | debug
  | info
  | success
  | warning
  | error
  | critical
  deriving DecidableEq, Repr

namespace LogLevel

def name : LogLevel → String
  | .trace => "TRACE"
  | .debug => "DEBUG"
  | .info => "INFO"
  | .success => "SUCCESS"
  | .warning => "WARNING"
  | .error => "ERROR"
  | .critical => "CRITICAL"

def weight : LogLevel → Nat
  | .trace => 5
  | .debug => 10
  | .info => 20
  | .success => 25
  | .warning => 30
  | .error => 40
  | .critical => 50

def all : List LogLevel := [.trace, .debug, .info, .success, .warning, .error, .critical]

/-- The level of a name in upper case. -/
def ofName? (name : Text) : Option LogLevel :=
  all.find? fun level => Text.ofString level.name = name

end LogLevel

/-- A record. `cause` is the kind of the failure that it tells of, if it does. -/
structure LogRecord where
  level : LogLevel
  message : Text
  context : List (String × Value)
  cause : Option Text

end Tenancy
