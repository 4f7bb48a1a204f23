import Tenancy.Text.Blank

/-!
# The environment file

A file of assignments, one a line, each with an optional `export` before it and an optional comment
behind it. A value in quotes may hold escapes and line breaks; one without quotes ends with its
line or before a comment. A name alone assigns nothing. A line that is no assignment is skipped.
Values may refer to earlier assignments and to the environment.
-/
namespace Tenancy

/-- The variables of a process, with their values. -/
abbrev Environment := List (Text × Text)

namespace EnvFile

def isLineBlank (c : CodePoint) : Bool := c.isBlank && c != .newline

/-- Every line break becomes a line feed. -/
def normalizeBreaks : Text → Text
  | [] => []
  | 0x0d :: 0x0a :: rest => .newline :: normalizeBreaks rest
  | 0x0d :: rest => .newline :: normalizeBreaks rest
  | c :: rest => c :: normalizeBreaks rest

/-- The text without the mark of its encoding, which may come first. -/
def withoutMark : Text → Text
  | 0xfeff :: rest => rest
  | t => t

/-- The rest behind the end of the line. -/
def skipLine (t : Text) : Text := (t.dropWhile (· != .newline)).drop 1

/-- The rest behind the word `export` and the blanks that follow it. -/
def skipExport (t : Text) : Text :=
  match Text.after? "export" t with
  | some (c :: rest) => if isLineBlank c then rest.dropWhile isLineBlank else t
  | _ => t

/-- The rest behind a comment, which reaches to the end of the line. -/
def skipComment (t : Text) : Text :=
  match t.dropWhile isLineBlank with
  | 0x23 :: rest => rest.dropWhile (· != .newline)
  | _ => t

/-- The rest behind the end of a line, if nothing but blanks comes before it. -/
def endLine? (t : Text) : Option Text :=
  match t.dropWhile isLineBlank with
  | [] => some []
  | 0x0a :: rest => some rest
  | _ => none

/-- The name that is assigned to, if the line is more than a comment, and the rest. -/
def takeName (t : Text) : Option (Option Text × Text) :=
  match t with
  | 0x23 :: _ => some (none, t)
  | 0x27 :: body =>
    match Text.cut? .apostrophe body with
    | some (c :: name, rest) => some (some (c :: name), rest)
    | _ => none
  | _ =>
    match Text.cutBefore (fun c => c.isBlank || c.isOneOf "=#") t with
    | ([], _) => none
    | (name, rest) => some (some name, rest)

/-- What stands before the closing delimiter, and the rest behind it. -/
def takeQuoted (delimiter : CodePoint) : Text → Option (Text × Text)
  -- What a backslash stands before closes nothing, be it the delimiter or another backslash
  | [] => none
  | c :: rest =>
    if c = delimiter then some ([], rest)
    else match c == .backslash, rest with
      | true, [] => none
      | true, d :: behind =>
        (takeQuoted delimiter behind).map fun (body, rest) => (c :: d :: body, rest)
      | false, rest => (takeQuoted delimiter rest).map fun (body, rest) => (c :: body, rest)

def singleEscape? (c : CodePoint) : Option CodePoint :=
  if c = .backslash ∨ c = .apostrophe then some c else none

/-- The code point that an escape denotes between quotation marks. -/
def doubleEscape? (c : CodePoint) : Option CodePoint :=
  if c = .backslash ∨ c = .apostrophe ∨ c = .quote then some c
  else if c = CodePoint.ofChar 'a' then some 0x07
  else if c = CodePoint.ofChar 'b' then some 0x08
  else if c = CodePoint.ofChar 'f' then some 0x0c
  else if c = CodePoint.ofChar 'n' then some 0x0a
  else if c = CodePoint.ofChar 'r' then some 0x0d
  else if c = CodePoint.ofChar 't' then some 0x09
  else if c = CodePoint.ofChar 'v' then some 0x0b
  else none

/-- Replaces the escapes of a table; other backslashes stand for themselves. -/
def unescape (escape? : CodePoint → Option CodePoint) : Text → Text
  | [] => []
  | [c] => [c]
  | c :: d :: rest =>
    match c == .backslash, escape? d with
    | true, some e => e :: unescape escape? rest
    | _, _ => c :: unescape escape? (d :: rest)

/-- The part of a line before a comment, which has a blank before it. -/
def beforeComment : (afterBlank : Bool) → Text → Text
  | _, [] => []
  | afterBlank, c :: rest =>
    if afterBlank && c == CodePoint.ofChar '#' then [] else c :: beforeComment c.isBlank rest

def takeValue (t : Text) : Option (Text × Text) :=
  match t with
  | 0x27 :: body =>
    (takeQuoted .apostrophe body).map fun (body, rest) => (unescape singleEscape? body, rest)
  | 0x22 :: body =>
    (takeQuoted .quote body).map fun (body, rest) => (unescape doubleEscape? body, rest)
  | _ =>
    let (line, rest) := Text.cutBefore (· == .newline) t
    some (Text.trimEnd CodePoint.isBlank (beforeComment false line), rest)

/-- The value behind an equals sign and the rest. -/
def takeBehindEquals (t : Text) : Except Text (Text × Text) :=
  -- Blanks come before it, and a number sign behind them is a comment already, so that the value is
  -- empty
  match t.dropWhile isLineBlank with
  | 0x23 :: rest =>
    if t.head? = some 0x23 then (takeValue t).elim (.error t) .ok else .ok ([], 0x23 :: rest)
  | start => (takeValue start).elim (.error start) .ok

/-- The value that is assigned, if there is an equals sign, and the rest; where there is no value,
what is left of the file. -/
def takeAssigned (t : Text) : Except Text (Option Text × Text) :=
  match t.dropWhile isLineBlank with
  | 0x3d :: behind => (takeBehindEquals behind).map fun (value, rest) => (some value, rest)
  | rest => .ok (none, rest)

/-- One line, or several where blank lines come first or a value spans them: the name and the value
of the assignment, if it is one, and the rest of the file. -/
def takeLine (t : Text) : Option (Text × Option Text) × Text :=
  match t.dropWhile CodePoint.isBlank with
  | [] => (none, [])
  | start =>
    let start := skipExport start
    match takeName start with
    | none => (none, skipLine start)
    | some (name, behind) =>
      match takeAssigned behind with
      | .error rest => (none, skipLine rest)
      | .ok (value, behind) =>
        let behind := skipComment behind
        match endLine? behind with
        | some rest => (name.map fun name => (name, value), rest)
        | none => (none, skipLine behind)

/-- At most `fuel` lines. -/
def takeLines : (fuel : Nat) → Text → List (Text × Option Text)
  | 0, _ => []
  | _, [] => []
  | fuel + 1, t =>
    let (assignment, rest) := takeLine t
    assignment.toList ++ takeLines fuel rest

/-- A reference at the start of a text: the name, the value that stands in where the name has none,
and the rest. -/
def takeReference (t : Text) : Option (Text × Text × Text) := do
  let body ← Text.after? "$\x7b" t
  let (name, behind) := Text.cutBefore (CodePoint.isOneOf "\x7d:") body
  match Text.after? "\x7d" behind with
  | some rest => some (name, [], rest)
  | none =>
    let body ← Text.after? ":-" behind
    let (absent, rest) ← Text.cut? (CodePoint.ofChar '\x7d') body
    return (name, absent, rest)

/-- Replaces the references in at most `fuel` places. -/
def resolve (value? : Text → Option Text) : (fuel : Nat) → Text → Text
  | 0, t => t
  | _, [] => []
  | fuel + 1, c :: rest =>
    match takeReference (c :: rest) with
    | some (name, absent, behind) => (value? name).getD absent ++ resolve value? fuel behind
    | none => c :: resolve value? fuel rest

/-- Assigns a value; a name that has one already keeps its place. -/
def assign {α : Type} (name : Text) (value : α) : List (Text × α) → List (Text × α)
  | [] => [(name, value)]
  | (other, old) :: rest =>
    if other = name then (other, value) :: rest else (other, old) :: assign name value rest

/-- What a name refers to: an earlier assignment, or else a variable of the environment. -/
def referent? (environment : Environment) (assigned : List (Text × Option Text)) (name : Text) :
    Option Text :=
  -- A name that stands alone refers to nothing, even if the environment has it
  match assigned.lookup name with
  | some value => some (value.getD [])
  | none => environment.lookup name

/-- The assignments of a file in the order of their names' first occurrences. -/
def read (environment : Environment) (file : Text) : List (Text × Option Text) :=
  let text := normalizeBreaks (withoutMark file)
  (takeLines text.length text).foldl
    (fun assigned (name, value) =>
      let resolved := value.map fun t => resolve (referent? environment assigned) t.length t
      assign name resolved assigned)
    []

end EnvFile

end Tenancy
