import Tenancy.Database.Embedded
import Tenancy.Database.Location

/-!
# Databases in files

A disk has folders and, in some of them, files with databases. A file can be opened if it is there,
or if it may be made and its folder is there; a new file starts without tables. A database in memory
lasts until the next one is opened.
-/
namespace Tenancy

/-- The names of a file or folder and of the folders that it is in, from the root. -/
abbrev Path := List Text

namespace Path

/-- A path with one more name: a dot stays where it is, and two dots lead up. -/
def follow (path : Path) (name : Text) : Path :=
  if name = [] ∨ name = "." then path
  else if name = ".." then path.dropLast
  else path ++ [name]

/-- The path that a text denotes in a folder. -/
def read (folder : Path) (t : Text) : Path :=
  let start := if t.head? = some (CodePoint.ofChar '/') then [] else folder
  (Text.splitOn (CodePoint.ofChar '/') t).foldl follow start

def size (t : Text) : Nat := (t.flatMap Utf8.encodePoint).length

/-- Whether a path, or a name in it, is too long for a file. -/
def isTooLong (path : Path) : Bool :=
  path.any (255 < size ·) || 504 < path.foldl (fun total name => total + size name + 1) 0

end Path

/-- Folders and files with databases. -/
structure Disk where
  /-- The folder in which relative paths start. -/
  folder : Path
  folders : List Path
  files : List (Path × Database)
  /-- What is open. -/
  location : Location
  /-- The database in memory. -/
  memory : Database

namespace Disk

/-- The disk after a file's database has become another one. -/
def write (disk : Disk) (path : Path) (database : Database) : Disk :=
  { disk with files := (path, database) :: disk.files.filter (·.1 != path) }

def cannotOpen : Fault := .database "OperationalError" "unable to open database file"

/-- The disk with a file, which is made if it may be and is not there. -/
def openFile (disk : Disk) (path : Path) (mode : OpenMode) : Except Fault Disk :=
  if path.isTooLong then .error cannotOpen
  else if (disk.files.lookup path).isSome then .ok disk
  else if mode = .creating ∧ !disk.folders.contains path ∧ disk.folders.contains path.dropLast then
    .ok (disk.write path .empty)
  else .error cannotOpen

/-- Takes a connection to what is open. -/
def connect (disk : Disk) : Except Fault Disk :=
  match disk.location with
  | .memory => .ok disk
  | .file address => disk.openFile (Path.read disk.folder address.path) address.mode
  | .unreachable fault => .error fault

/-- Runs a statement on what is open. -/
def execute (dialect : Dialect) (statement : Sql.Statement) (disk : Disk) :
    Except Fault ResultSet × Disk :=
  match disk.location with
  | .memory =>
    let (outcome, memory) := disk.memory.run dialect statement
    (outcome, { disk with memory })
  | .file address =>
    let path := Path.read disk.folder address.path
    match disk.files.lookup path with
    | none => (.error cannotOpen, disk)
    | some database =>
      if address.mode = .reading ∨ address.immutable then
        (database.runReading dialect statement, disk)
      else
        let (outcome, database) := database.run dialect statement
        (outcome, disk.write path database)
  | .unreachable fault => (.error fault, disk)

instance : Host Disk where
  connect _ disk :=
    match disk.connect with
    | .ok disk => (.ok (), disk)
    | .error fault => (.error fault, disk)
  execute := execute
  openAt location disk := { disk with location, memory := .empty }

end Disk

end Tenancy
