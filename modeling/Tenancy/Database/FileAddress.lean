import Tenancy.Text.Percent

/-!
# Addresses of files

A database file may be given by an address of its own, which starts with `file:`. It has a path, and
options that say how the file is to be opened. What stands behind a number sign is ignored, and of a
part in which an encoded null stands only what comes before it counts.
-/
namespace Tenancy

/-- How a file is opened. -/
inductive OpenMode where
  | reading
  | writing
  /-- Writing, and making the file if it is not there. -/
  | creating
  /-- The file is not touched at all: everything stays in memory. -/
  | memory
  deriving DecidableEq, Repr

/-- Why an address does not say how to open a file. -/
inductive FileAddressFault where
  | authority (name : Text)
  | unknownMode (kind : String) (name : Text)
  | modeNotAllowed (name : Text)
  | unknownSystem (name : Text)
  deriving DecidableEq, Repr

def FileAddressFault.message : FileAddressFault → Text
  | .authority name => "invalid uri authority: " ++ name
  | .unknownMode kind name => "no such " ++ Text.ofString kind ++ " mode: " ++ name
  | .modeNotAllowed name => "access mode not allowed: " ++ name
  | .unknownSystem name => "no such vfs: " ++ name

/-- A file, and how it is to be opened. -/
structure FileAddress where
  path : Text
  mode : OpenMode
  /-- Whether nothing may change the file. -/
  immutable : Bool
  deriving DecidableEq, Repr

namespace OpenMode

/-- The rank of a mode; a mode is not allowed to go beyond the one before it. -/
def rank : OpenMode → Nat
  | .reading => 1
  | .writing => 2
  | .creating => 6
  | .memory => 128

def ofName? (name : Text) : Option OpenMode :=
  if name = "ro" then some .reading
  else if name = "rw" then some .writing
  else if name = "rwc" then some .creating
  else if name = "memory" then some .memory
  else none

/-- The mode of a name that is asked for in the place of another mode. -/
def narrow (mode : OpenMode) (name : Text) : Except FileAddressFault OpenMode :=
  match ofName? name with
  | none => .error (.unknownMode "access" name)
  | some .memory => .ok .memory
  | some asked => if asked.rank ≤ mode.rank then .ok asked else .error (.modeNotAllowed name)

end OpenMode

namespace FileAddress

/-- The octets of a part, up to an encoded null. -/
def decodeOctets : Octets → Octets
  | [] => []
  | octet :: rest =>
    match octet == 0x25, rest with
    | true, high :: low :: behind =>
      match Percent.octet? (Fin.ofNat 0x110000 high.toNat) (Fin.ofNat 0x110000 low.toNat) with
      | some decoded => if decoded = 0 then [] else decoded :: decodeOctets behind
      | none => octet :: decodeOctets (high :: low :: behind)
    | _, rest => octet :: decodeOctets rest

/-- A part of an address, decoded. -/
def decodePart (part : Text) : Text :=
  Utf8.decodeReplacing (decodeOctets (part.flatMap Utf8.encodePoint))

/-- An option: its name and its value, which may be missing. -/
def readOption (assignment : Text) : Text × Text :=
  match Text.cut? (CodePoint.ofChar '=') assignment with
  | some (name, value) => (decodePart name, decodePart value)
  | none => (decodePart assignment, [])

def readOptions (query : Text) : List (Text × Text) :=
  ((Text.splitOn (CodePoint.ofChar '&') query).map readOption).filter fun (name, _) =>
    !name.isEmpty

/-- The mode in which the options say to open a file. -/
def modeOf : OpenMode → List (Text × Text) → Except FileAddressFault OpenMode
  | mode, [] => .ok mode
  | mode, (name, value) :: rest =>
    if name = "mode" then do modeOf (← mode.narrow value) rest
    else if name = "cache" ∧ value ≠ "shared" ∧ value ≠ "private" then
      .error (.unknownMode "cache" value)
    else modeOf mode rest

/-- The file systems there are; the last one is in memory. -/
def systems : List String := ["unix", "unix-none", "unix-dotfile", "unix-excl", "memdb"]

/-- The file system that the options name last. -/
def systemOf (options : List (Text × Text)) : Text :=
  (options.reverse.lookup (Text.ofString "vfs")).getD "unix"

/-- Whether a text is a word for true, or a number other than zero in its last eight bits. -/
def isYes (t : Text) : Bool :=
  match t.takeWhile (·.isDigit) with
  | [] => ["on", "yes", "true"].any fun word => Text.ofString word == t.asciiLower
  | digits => Text.decimalValue digits % 256 != 0

/-- The path behind an authority, which has to be missing, empty or the local host. -/
def takePath (t : Text) : Except FileAddressFault Text :=
  match Text.after? "//" t with
  | none => .ok t
  | some body =>
    let (authority, path) := Text.cutBefore (· == CodePoint.ofChar '/') body
    if authority.isEmpty || authority == Text.ofString "localhost" then .ok path
    else .error (.authority authority)

/-- Reads an address behind its beginning. -/
def readBody (t : Text) : Except FileAddressFault FileAddress := do
  let address := t.takeWhile (· != CodePoint.ofChar '#')
  let (path, query) := Text.cutBefore (· == CodePoint.ofChar '?') (← takePath address)
  let options := readOptions (query.drop 1)
  let mode ← modeOf .creating options
  let system := systemOf options
  if !systems.any (Text.ofString · == system) then throw (.unknownSystem system)
  return {
    path := decodePart path
    mode := if system = "memdb" then .memory else mode
    immutable := (options.lookup (Text.ofString "immutable")).any isYes }

/-- What a name of a file says: an address, or a path by itself. -/
def read (name : Text) : Except FileAddressFault FileAddress :=
  match Text.after? "file:" name with
  | some body => readBody body
  | none => .ok ⟨name, .creating, false⟩

end FileAddress

end Tenancy
