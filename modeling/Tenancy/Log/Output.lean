import Tenancy.Log.Directive
import Tenancy.Log.Record
import Tenancy.Log.Template
import Tenancy.Text.Casing
import Tenancy.Value.Display

/-!
# Log output

Records at or above a threshold are written, one line each: the level, the type of database and the
workspace that the record concerns, and the message. A record that names neither shows the type of
database that the log was set up for. Records of libraries are taken into the same output, save
those that some libraries write below a warning.
-/
namespace Tenancy

/-- How grave a record is: libraries may use weights that no level has. -/
structure LogGrade where
  name : Text
  weight : Int

def LogLevel.grade (level : LogLevel) : LogGrade := ⟨Text.ofString level.name, level.weight⟩

/-- The grade of a weight that belongs to no level. -/
def LogGrade.nameless (weight : Int) : LogGrade := ⟨"Level " ++ Text.ofInt weight, weight⟩

/-- The grade of a weight. The levels `TRACE` and `SUCCESS` are the service's own, and a library
that uses their weights does not mean them. -/
def LogGrade.ofWeight (weight : Int) : LogGrade :=
  match [LogLevel.debug, .info, .warning, .error, .critical].find? (·.weight = weight) with
  | some level => level.grade
  | none => .nameless weight

/-- Why a record cannot be written or the log cannot be set up. -/
inductive LogFault where
  | unknownLevel (name : Text)
  /-- A level can be set up by its name alone, and this has none. -/
  | nameless (typeName : String)
  /-- A level is asked for by its name or its weight, and this is neither. -/
  | noLevel (typeName : String)
  | negativeWeight (weight : Int)
  /-- The weight of a library's record is no number. -/
  | noWeight
  | template (cause : TemplateFault)
  deriving DecidableEq, Repr

def LogFault.report : LogFault → Report
  | .unknownLevel name => .of "ValueError" ("Level '" ++ name ++ "' does not exist")
  | .nameless typeName =>
    .of "AttributeError" ("'" ++ Text.ofString typeName ++ "' object has no attribute 'upper'")
  | .noLevel typeName =>
    .of "TypeError" ("Invalid level, it should be an integer or a string, not: '"
      ++ Text.ofString typeName ++ "'")
  | .negativeWeight weight =>
    .of "ValueError" ("Invalid level value, it should be a positive integer, not: "
      ++ Text.ofInt weight)
  | .noWeight => .of "TypeError" "level must be an integer"
  | .template cause => cause.report

/-- The grade that a record of the service asks for. -/
def LogGrade.ofValue : Value → Except LogFault LogGrade
  -- A weight is never taken for a level
  | .text name =>
    match LogLevel.ofName? name with
    | some level => .ok level.grade
    | none => .error (.unknownLevel name)
  | .int weight => if weight < 0 then .error (.negativeWeight weight) else .ok (nameless weight)
  | .bool b => .ok (nameless (if b then 1 else 0))
  | level => .error (.noLevel level.typeName)

/-- The level that the log is to be set up for, by its name in either case. -/
def LogLevel.ofValue : Value → Except LogFault LogLevel
  | .text name =>
    match LogLevel.ofName? name.upper with
    | some level => .ok level
    | none => .error (.unknownLevel name.upper)
  | .octets data => .error (.noLevel (Value.typeName (.octets data)))
  | level => .error (.nameless level.typeName)

def LogGrade.weightOf : Value → Except LogFault Int
  | .int weight => .ok weight
  | .bool b => .ok (if b then 1 else 0)
  | _ => .error .noWeight

/-- Where records go. -/
structure LogOutput where
  /-- The least level that is written; without one nothing is. -/
  threshold : Option LogLevel := none
  /-- What stands for the type of database in records that name none. -/
  dbType : Text := "-"
  /-- Whether the records of libraries come here. -/
  takesLibraries : Bool := false

namespace LogOutput

def admits (output : LogOutput) (weight : Int) : Bool :=
  output.threshold.any fun level => (level.weight : Int) ≤ weight

/-- What a record's context shows under a name. -/
def tag (context : List (String × Value)) (name : String) (absent : Text) : Text :=
  match context.lookup name with
  | some value => value.toText
  | none => absent

/-- The line of a record, or the lines if the message has line breaks. -/
def lines (output : LogOutput) (grade : LogGrade) (context : List (String × Value))
    (message : Text) : List Text :=
  if output.admits grade.weight then
    Text.splitOn .newline
      (Text.padEnd 8 grade.name ++ " | [" ++ tag context "db_type" output.dbType ++ " ws="
        ++ tag context "workspace_id" "-" ++ "] " ++ message)
  else []

/-- What a record writes. -/
def write (output : LogOutput) (record : LogRecord) : List Text :=
  output.lines record.level.grade record.context record.message

/-- Sets the log up for a level and a type of database, and says so in a record of its own. -/
def setUp (output : LogOutput) (level dbType : Value) : Except LogFault (List Text) × LogOutput :=
  -- If there is no such level, nothing is written any more; what has no name changes nothing
  let dbType := if dbType.isPresent then dbType.toText else Text.ofString "-"
  match LogLevel.ofValue level with
  | .error (.nameless typeName) => (.error (.nameless typeName), output)
  | .error fault => (.error fault, { output with threshold := none, dbType })
  | .ok level =>
    let output := ⟨some level, dbType, true⟩
    (.ok (output.write ⟨.debug, "Logging ready (level=" ++ level.grade.name ++ ")", [], none⟩),
      output)

/-- What a record of the service writes. -/
def log (output : LogOutput) (level : Value) (context : List (String × Value)) (template : Text)
    (arguments : List Value) : Except LogFault (List Text) :=
  -- A template is filled only if there are arguments, and only if the record is written
  if output.threshold.isNone then .ok []
  else match LogGrade.ofValue level with
    | .error fault => .error fault
    | .ok grade =>
      if !output.admits grade.weight then .ok []
      else if arguments.isEmpty then .ok (output.lines grade context template)
      else match Template.fill template arguments with
        | .ok message => .ok (output.lines grade context message)
        | .error cause => .error (.template cause)

/-- The libraries whose records below a warning are not wanted. -/
def quietLibraries : List String := ["uvicorn.access", "sqlalchemy"]

/-- Whether a source of records belongs to a library, by its dotted name. -/
def belongsTo (source : Text) (library : String) : Bool :=
  source == Text.ofString library || (Text.after? (Text.ofString library ++ ".") source).isSome

/-- The least weight of the records that come from a source. -/
def leastWeight (source : Text) : Int :=
  if quietLibraries.any (belongsTo source) then LogLevel.warning.weight else 1

/-- The line that stands for a record whose template cannot be filled. -/
def unwritable : Text := "--- Logging error ---"

/-- What a record of a library writes. -/
def logLibrary (output : LogOutput) (source : Text) (level : Value) (template : Text)
    (arguments : List Value) : Except LogFault (List Text) := do
  -- As long as its records do not come here, warnings and graver records are written as they are,
  -- and a line of its own stands for one that cannot be
  let weight ← LogGrade.weightOf level
  if weight < leastWeight source then .ok []
  else if output.takesLibraries then
    match Template.expand template arguments with
    | .ok message => .ok (output.lines (.ofWeight weight) [] message)
    | .error cause => .error (.template cause)
  else if weight < LogLevel.warning.weight then .ok []
  else
    match Template.expand template arguments with
    | .ok message => .ok (Text.splitOn .newline message)
    | .error _ => .ok [unwritable]

end LogOutput

end Tenancy
