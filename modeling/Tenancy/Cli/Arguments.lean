import Tenancy.Cli.Help
import Tenancy.Cli.Suggestion
import Tenancy.Text.Word
import Tenancy.Value.Convert

/-!
# Reading a command line

Words that begin with a hyphen are options, up to a pair of hyphens; the word behind an option, or
what stands behind its equals sign, is its value. A group reads options only up to the first other
word, which names the member that reads the rest. The request for a description comes before
everything else but words that are no options.
-/
namespace Tenancy.Cli

/-- Why a command line is not followed. -/
inductive UsageFault where
  | unknownCommand (name : Text) (known : List String)
  | unknownOption (name : Text) (known : List String)
  | unknownLetter (letter : CodePoint)
  | missingCommand
  | missingArgument (name : String)
  | extraArguments (words : List Text)
  | notAnInteger (option : String) (word : Text)
  | invalidDocument (argument : String) (cause : Text)
  deriving DecidableEq, Repr

def UsageFault.message : UsageFault → Text
  | .unknownCommand name known =>
    "No such command " ++ name.quoted ++ "." ++ suggestion known name
  | .unknownOption name known =>
    "No such option " ++ name.quoted ++ "." ++ suggestion known name
  | .unknownLetter letter =>
    "No such option " ++ Text.quoted [CodePoint.ofChar '-', letter] ++ "."
  | .missingCommand => "Missing command."
  | .missingArgument name => "Missing argument '" ++ Text.ofString name ++ "'."
  | .extraArguments [word] => "Got unexpected extra argument (" ++ word ++ ")"
  | .extraArguments words =>
    "Got unexpected extra arguments (" ++ Text.join [.space] words ++ ")"
  | .notAnInteger option word =>
    "Invalid value for '" ++ Text.ofString option ++ "': " ++ word.quoted
      ++ " is not a valid integer."
  | .invalidDocument argument cause =>
    "Invalid value for " ++ Text.ofString argument ++ ": Invalid JSON: " ++ cause

/-- Why the reading of a command line stops. -/
inductive Stop where
  /-- A description is shown. -/
  | help (description : List Text)
  /-- The same because nothing is asked for. -/
  | nothing (description : List Text)
  /-- What is wrong with the use of a command or a group. -/
  | misuse (path usage : Text) (fault : UsageFault)
  /-- An option without its value. -/
  | valueMissing (option : String)
  /-- An option that takes no value, with one. -/
  | valueGiven (option : String)

/-- An option on a command line, with its value if it takes one. -/
structure Given where
  option : OptionSpec
  value : Text

def isOption (word : Text) : Bool :=
  match word with
  | c :: _ :: _ => c == CodePoint.ofChar '-'
  | _ => false

/-- The name of an option and the value behind its equals sign. -/
def splitOption (word : Text) : Text × Option Text :=
  match Text.cut? (CodePoint.ofChar '=') word with
  | some (name, value) => (name, some value)
  | none => (word, none)

/-- Why a word is none of the options; behind a single hyphen its first letter counts. -/
def unknown (options : List OptionSpec) (word : Text) : UsageFault :=
  match word with
  | _ :: letter :: _ =>
    if letter = CodePoint.ofChar '-' then
      .unknownOption (splitOption word).1 (options.map (·.name))
    else .unknownLetter letter
  | _ => .unknownOption word (options.map (·.name))

/-- Reads an option; the rest are the words behind it and behind its value. -/
def readOption (path usage : Text) (options : List OptionSpec) (word : Text) (rest : List Text) :
    Except Stop (Given × List Text) :=
  let (name, value) := splitOption word
  match options.find? fun option => Text.ofString option.name == name with
  | none => .error (.misuse path usage (unknown options word))
  | some option =>
    match option.kind, value, rest with
    | .flag, none, rest => .ok (⟨option, []⟩, rest)
    | .flag, some _, _ => .error (.valueGiven option.name)
    | _, some value, rest => .ok (⟨option, value⟩, rest)
    | _, none, value :: rest => .ok (⟨option, value⟩, rest)
    | _, none, [] => .error (.valueMissing option.name)

/-- Reads the words of a command: its options and its arguments. -/
def readWords (path usage : Text) (options : List OptionSpec) :
    (fuel : Nat) → List Text → Except Stop (List Given × List Text)
  | 0, words => .ok ([], words)
  | _, [] => .ok ([], [])
  | fuel + 1, word :: rest =>
    if word = "--" then .ok ([], rest)
    else if isOption word then
      match readOption path usage options word rest with
      | .error stop => .error stop
      | .ok (given, rest) =>
        match readWords path usage options fuel rest with
        | .error stop => .error stop
        | .ok (more, arguments) => .ok (given :: more, arguments)
    else
      match readWords path usage options fuel rest with
      | .error stop => .error stop
      | .ok (more, arguments) => .ok (more, word :: arguments)

/-- Reads the options of a group, up to the first other word. -/
def readGroupOptions (group : Group) : (asked : Bool) → List Text → Except Stop (List Text)
  -- The only option of a group asks for its description
  | asked, [] => if asked then .error (.help group.description) else .ok []
  | asked, word :: rest =>
    if word = "--" then if asked then .error (.help group.description) else .ok rest
    else if isOption word then
      match readOption (Text.ofString group.path) group.usage [.help] word [] with
      | .error stop => .error stop
      | .ok _ => readGroupOptions group true rest
    else if asked then .error (.help group.description)
    else .ok (word :: rest)

/-- Whether a word that names no member is read as options once more: it does not begin with a
letter or a digit. -/
def looksLikeOption (word : Text) : Bool :=
  match word with
  | c :: _ => !c.isAlphanumeric
  | [] => false

def findMember (group : Group) (word : Text) (rest : List Text) : Except Stop Member :=
  let misuse : Stop := .misuse (Text.ofString group.path) group.usage
    (.unknownCommand word (group.members.map Member.name))
  match group.members.find? fun member => Text.ofString member.name == word with
  | some member => .ok member
  | none =>
    if looksLikeOption word then
      match readGroupOptions group false (word :: rest) with
      | .error stop => .error stop
      | .ok _ => .error misuse
    else .error misuse

/-- Reads the words of a group: the member that they name, and the words for it. -/
def readGroup (group : Group) (words : List Text) : Except Stop (Member × List Text) :=
  if words.isEmpty then .error (.nothing group.description)
  else match readGroupOptions group false words with
    | .error stop => .error stop
    | .ok [] => .error (.misuse (Text.ofString group.path) group.usage .missingCommand)
    | .ok (word :: rest) =>
      match findMember group word rest with
      | .error stop => .error stop
      | .ok member => .ok (member, rest)

/-- A command with what is given to it. -/
structure Request where
  action : Action
  options : List Given
  arguments : List Text

namespace Request

/-- The last value of an option. -/
def option? (request : Request) (name : String) : Option Text :=
  (request.options.reverse.find? (·.option.name == name)).map (·.value)

def argument (request : Request) (index : Nat) : Text := request.arguments.getD index []

end Request

/-- The values of integer options, of which the last one of each counts. -/
def checkIntegers (action : Action) (given : List Given) : Option UsageFault :=
  action.options.findSome? fun option =>
    if option.kind = .integer then
      match (given.reverse.find? (·.option.name == option.name)).map (·.value) with
      | some word =>
        if word.toInt.toOption.isNone then some (.notAnInteger option.name word) else none
      | none => none
    else none

def checkArguments (action : Action) (arguments : List Text) : Option UsageFault :=
  match action.arguments[arguments.length]? with
  | some name => some (.missingArgument name)
  | none =>
    match arguments.drop action.arguments.length with
    | [] => none
    | extra => some (.extraArguments extra)

def readAction (action : Action) (words : List Text) : Except Stop Request :=
  let path := Text.ofString action.path
  match readWords path action.usage action.options words.length words with
  | .error stop => .error stop
  | .ok (given, arguments) =>
    if given.any (·.option.name == OptionSpec.help.name) then .error (.help action.description)
    else match (checkIntegers action given).or (checkArguments action arguments) with
      | some fault => .error (.misuse path action.usage fault)
      | none => .ok ⟨action, given, arguments⟩

/-- Reads a command line. -/
def read (words : List Text) : Except Stop Request :=
  match readGroup .main words with
  | .error stop => .error stop
  | .ok (.action action, rest) => readAction action rest
  | .ok (.group group, rest) =>
    match readGroup group rest with
    | .error stop => .error stop
    | .ok (.action action, rest) => readAction action rest
    | .ok (.group inner, _) =>
      .error (.misuse (Text.ofString inner.path) inner.usage .missingCommand)

end Tenancy.Cli
