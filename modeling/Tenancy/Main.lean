import Std.Time.DateTime.Timestamp
import Tenancy.Cli.Session
import Tenancy.Database.Embedded

/-!
# The program

Reads the configuration, the clock and a seed, runs the command line over an embedded database that
lives as long as the program, and writes what comes of it.
-/
namespace Tenancy.Program

/-- The variables that configure the service, as far as they are set. -/
def readEnvironment : IO Environment :=
  Settings.names.filterMapM fun name => do
    let key := "BOARDSTORE_" ++ name.toUpper
    return (← IO.getEnv key).map fun value => (Text.ofString key, Text.ofString value)

/-- The text of the environment file, if there is one. -/
def readFile : IO Text := do
  try return Text.ofString (← IO.FS.readFile ".env")
  catch _ => return []

/-- What the command reaches: the time, one seed drawn at random, and an empty database. -/
def readWorld : IO (World Database) := do
  let now ← Std.Time.Timestamp.now
  let drawn ← IO.getRandomBytes 16
  return {
    seeds := ⟨[Token.seedOf (Token.markRandom drawn.toList)], 0⟩
    clock := .int now.toSecondsSinceUnixEpoch.val
    log := []
    database := Database.empty }

/-- Writes an outcome; a failure that escaped comes last. -/
def writeOutcome (outcome : Cli.Outcome) : IO Unit := do
  IO.print (Text.toString outcome.output)
  for line in outcome.errors do IO.eprintln (Text.toString line)
  if let some report := outcome.escaped then
    IO.eprintln (Text.toString (report.kind ++ ": " ++ report.message.getD []))

/-- Runs a command line and gives its exit status. -/
def run (words : List String) : IO UInt32 := do
  let session : Cli.Session := { environment := ← readEnvironment, file := ← readFile }
  let (outcome, _) := (session.run (words.map Text.ofString)).run (← readWorld)
  writeOutcome outcome
  return outcome.status.toUInt32

end Tenancy.Program

/-- Runs the command line. -/
def main (words : List String) : IO UInt32 := Tenancy.Program.run words
