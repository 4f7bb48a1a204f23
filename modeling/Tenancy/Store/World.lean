import Tenancy.Log.Record
import Tenancy.Sql.Statement
import Tenancy.Store.Fault
import Tenancy.Token

/-!
# What a step reaches

A step of the store reads the clock, draws token seeds, writes log records and asks a database for
a connection and for one statement. Everything it reaches is one state, and a step that fails
keeps what it has done to that state so far: a seed that is drawn stays drawn. Only the database
decides what of a failed statement is undone.
-/
namespace Tenancy

/-- The seeds that steps draw one after the other: the given ones, and then for the n-th draw of
all the number n. -/
structure SeedSupply where
  given : List TokenSeed
  drawn : Nat

namespace SeedSupply

/-- The next seed. -/
def next (supply : SeedSupply) : TokenSeed :=
  supply.given.getD supply.drawn (Fin.ofNat (2 ^ 128) (supply.drawn + 1))

def advance (supply : SeedSupply) : SeedSupply := { supply with drawn := supply.drawn + 1 }

end SeedSupply

/-- Everything that a step reaches, over a state of a database. -/
structure World (δ : Type) where
  seeds : SeedSupply
  /-- What the clock shows; seconds, if it is a number. -/
  clock : Value
  /-- The records written so far, the last one first. -/
  log : List LogRecord
  database : δ

/-- What a connection is taken for. -/
inductive Checkout where
  /-- A transaction, which a failure undoes. -/
  | transaction
  | reading
  deriving DecidableEq, Repr

/-- The rows of a result, and the failure that comes after the last of them, if one does. -/
structure ResultSet where
  rows : List (List Value)
  failure : Option Fault

/-- A database as the store sees it. -/
class Engine (δ : Type) where
  /-- Takes a connection. -/
  connect : Checkout → δ → Except Fault Unit × δ
  /-- Runs a statement. -/
  execute : Dialect → Sql.Statement → δ → Except Fault ResultSet × δ

/-- A step that gives a result or fails, and changes what it reaches. -/
abbrev Step (δ : Type) := ExceptT Fault (StateM (World δ))

namespace Step

variable {δ : Type}

/-- Draws a seed and makes a token of it. -/
def mintToken : Step δ Text := do
  let world ← get
  set { world with seeds := world.seeds.advance }
  return Token.ofSeed world.seeds.next

/-- The whole seconds that the clock shows. -/
def readClock : Step δ Int := do
  match (← get).clock.toInt with
  | .ok seconds => return seconds
  | .error cause => throw (.conversion cause)

def writeLog (record : LogRecord) : Step δ Unit :=
  modify fun world => { world with log := record :: world.log }

/-- Takes a connection. -/
def connect [Engine δ] (checkout : Checkout) : Step δ Unit := do
  let world ← get
  let (outcome, database) := Engine.connect checkout world.database
  set { world with database }
  match outcome with
  | .ok () => return ()
  | .error fault => throw fault

/-- Runs a statement. -/
def execute [Engine δ] (dialect : Dialect) (statement : Sql.Statement) : Step δ ResultSet := do
  let world ← get
  let (outcome, database) := Engine.execute dialect statement world.database
  set { world with database }
  match outcome with
  | .ok result => return result
  | .error fault => throw fault

/-- A result without effect. -/
def ofExcept {α : Type} (outcome : Except Fault α) : Step δ α :=
  match outcome with
  | .ok a => return a
  | .error fault => throw fault

end Step

namespace ResultSet

/-- The only row, if there is one. -/
def oneOrNone (result : ResultSet) : Except Fault (Option (List Value)) :=
  -- A failure comes before the end of the rows is reached
  match result.rows, result.failure with
  | _ :: _ :: _, _ => .error (.severalRows true)
  | _, some fault => .error fault
  | [row], none => .ok (some row)
  | [], none => .ok none

/-- The first value of the only row. -/
def scalar (result : ResultSet) : Except Fault Value :=
  match result.rows, result.failure with
  | _ :: _ :: _, _ => .error (.severalRows false)
  | _, some fault => .error fault
  | [value :: _], none => .ok value
  | [[]], none => .error .emptyRow
  | [], none => .error .noRow

end ResultSet

end Tenancy
