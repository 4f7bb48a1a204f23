import Tenancy.Text.Basic

/-!
# Commands

The program has one command of its own and a group of commands on workspaces. A command has options
and arguments; every command and every group also has an option that asks for its description.
-/
namespace Tenancy.Cli

/-- What an option takes. -/
inductive OptionKind where
  | text
  | integer
  /-- Nothing: it is given or not. -/
  | flag
  deriving DecidableEq, Repr

/-- An option of a command. -/
structure OptionSpec where
  name : String
  kind : OptionKind
  about : String
  deriving DecidableEq, Repr

def OptionSpec.help : OptionSpec := ⟨"--help", .flag, "Show this message and exit."⟩

/-- What a command does. -/
inductive Action where
  | serve
  | get
  | count
  | listForUser
  | regenerateToken
  | setSettings
  deriving DecidableEq, Repr

namespace Action

def name : Action → String
  | .serve => "serve"
  | .get => "get"
  | .count => "count"
  | .listForUser => "list-for-user"
  | .regenerateToken => "regenerate-token"
  | .setSettings => "set-settings"

def path : Action → String
  | .serve => "main serve"
  | action => "main workspace " ++ action.name

/-- What a command does, in a sentence. -/
def about : Action → String
  | .serve => "Start the HTTP API server."
  | .get => "Print a workspace as JSON."
  | .count => "Print the number of workspaces."
  | .listForUser => "List the workspaces USER_ID belongs to, with board counts."
  | .regenerateToken => "Replace the signup token of WORKSPACE_ID and print the new one."
  | .setSettings => "Replace the settings of WORKSPACE_ID with the SETTINGS_JSON document."

def modifiedBy : OptionSpec :=
  ⟨"--modified-by", .text, "User id recorded as the modifier."⟩

def options : Action → List OptionSpec
  | .serve =>
    [⟨"--host", .text, "Bind host (default: from BOARDSTORE_HOST or 0.0.0.0)."⟩,
      ⟨"--port", .integer, "Bind port (default: from BOARDSTORE_PORT or 8000)."⟩,
      ⟨"--reload", .flag, "Enable auto-reload for development."⟩, .help]
  | .regenerateToken => [modifiedBy, .help]
  | .setSettings => [modifiedBy, .help]
  | _ => [.help]

def arguments : Action → List String
  | .get => ["WORKSPACE_ID"]
  | .listForUser => ["USER_ID"]
  | .regenerateToken => ["WORKSPACE_ID"]
  | .setSettings => ["WORKSPACE_ID", "SETTINGS_JSON"]
  | _ => []

/-- The commands on workspaces, in the order of their names. -/
def ofWorkspaces : List Action := [.count, .get, .listForUser, .regenerateToken, .setSettings]

end Action

/-- A group of commands. -/
inductive Group where
  | main
  | workspace
  deriving DecidableEq, Repr

/-- What a group holds: commands and groups. -/
inductive Member where
  | action (action : Action)
  | group (group : Group)
  deriving DecidableEq, Repr

namespace Group

def path : Group → String
  | .main => "main"
  | .workspace => "main workspace"

/-- What a group is for, in a sentence. -/
def about : Group → String
  | .main => "Boardstore - workspace data service for boards."
  | .workspace => "Inspect and update workspaces."

/-- The members of a group, in the order of their names. -/
def members : Group → List Member
  | .main => [.action .serve, .group .workspace]
  | .workspace => Action.ofWorkspaces.map .action

end Group

namespace Member

def name : Member → String
  | .action command => command.name
  | .group .main => "main"
  | .group .workspace => "workspace"

/-- What a member does, in a sentence. -/
def about : Member → String
  | .action command => command.about
  | .group commands => commands.about

end Member

end Tenancy.Cli
