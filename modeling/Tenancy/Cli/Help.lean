import Tenancy.Cli.Command

/-!
# Descriptions

The description of a command or a group shows how it is called, what it does, its options and its
members. A line has eighty columns, and a member's sentence that does not fit is cut behind a word.
-/
namespace Tenancy.Cli

def columns : Nat := 80

def Action.usage (action : Action) : Text :=
  Text.join [.space] ((action.path :: "[OPTIONS]" :: action.arguments).map Text.ofString)

def Group.usage (group : Group) : Text := Text.ofString group.path ++ " [OPTIONS] COMMAND [ARGS]..."

def OptionSpec.signature (option : OptionSpec) : Text :=
  Text.ofString (match option.kind with
    | .text => option.name ++ " TEXT"
    | .integer => option.name ++ " INTEGER"
    | .flag => option.name)

/-- Two columns, the first as wide as its widest entry. -/
def twoColumns (rows : List (Text × Text)) : List Text :=
  let width := (rows.map fun row => row.1.length).foldl max 0
  rows.map fun (left, right) => "  " ++ Text.padEnd (width + 2) left ++ right

/-- The longest beginning of a list of words that a width holds together with dots behind it. -/
def cutWords (width : Nat) (words : List Text) : Text :=
  let beginnings := (List.range words.length).map fun count => Text.join [.space] (words.take count)
  match beginnings.reverse.find? fun beginning => beginning.length + 3 ≤ width with
  | some beginning => beginning ++ "..."
  | none => "..."

def shorten (width : Nat) (sentence : Text) : Text :=
  if sentence.length ≤ width then sentence
  else cutWords width (Text.splitOn .space sentence)

def titled (title : Text) (rows : List (Text × Text)) : List Text :=
  [] :: title :: twoColumns rows

def introduction (usage : Text) (about : String) : List Text :=
  ["Usage: " ++ usage, [], "  " ++ Text.ofString about]

def optionRows (options : List OptionSpec) : List (Text × Text) :=
  options.map fun option => (option.signature, Text.ofString option.about)

def memberRows (members : List Member) : List (Text × Text) :=
  let widest := (members.map fun member => member.name.length).foldl max 0
  members.map fun member =>
    (Text.ofString member.name, shorten (columns - 6 - widest) (Text.ofString member.about))

def Action.description (action : Action) : List Text :=
  introduction action.usage action.about ++ titled "Options:" (optionRows action.options)

def Group.description (group : Group) : List Text :=
  introduction group.usage group.about ++ titled "Options:" (optionRows [.help])
    ++ titled "Commands:" (memberRows group.members)

end Tenancy.Cli
