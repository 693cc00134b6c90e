import LiveConfig.Config.OfYaml
import LiveConfig.Readiness

set_option autoImplicit false

namespace LiveConfig.Command

/-- What stands under a path. -/
inductive Content where
  | missing
  /-- Something that cannot be read as text, such as a directory, and the reason. -/
  | unreadable (reason : String)
  | text (content : String)

abbrev Files := String → Content

/-- The kinds of input files. -/
inductive Source where
  | config
  | host
  | globals
  | engine
deriving DecidableEq, Repr

/-- The name of a kind of file at the start of a sentence. -/
def Source.title : Source → String
  | .config => "Configuration"
  | .host => "Host state"
  | .globals => "Global variables"
  | .engine => "Engine configuration"

/-- Why a task cannot be done. -/
inductive Trouble where
  | notFound (source : Source) (path : String)
  /-- A configuration that cannot be read, or not rendered for a known cause. -/
  | badConfig (path : String) (cause : Option ConfigError)
  | badInput (source : Source) (path : String)
  | unreadable (reason : String)
  /-- The instance cannot render, or its values never arrive. -/
  | notReady (readiness : Readiness)

namespace Trouble

def message : Trouble → String
  | .notFound source path => source.title ++ " file not found: " ++ path
  | .badConfig path _ => "Invalid instance configuration: " ++ path
  | .badInput source path =>
    let what := match source with
      | .config => "configuration"
      | .host => "host state"
      | .globals => "global variables"
      | .engine => "engine configuration"
    "Failed to parse " ++ what ++ ": " ++ path
  | .unreadable reason => reason
  | .notReady readiness => "Instance is not ready: " ++ readiness.describe

/-- The known causes behind the message. -/
def causes : Trouble → List String
  | .badConfig _ (some cause) => if cause = .malformed then [] else [cause.message]
  | _ => []

end Trouble

/-- The text of a file that has to exist. -/
def textOf (files : Files) (source : Source) (path : String) (unreadable : String → Trouble) :
    Except Trouble String :=
  match files path with
  | .missing => .error (.notFound source path)
  | .unreadable reason => .error (unreadable reason)
  | .text content => .ok content

def loadConfig (files : Files) (path : String) : Except Trouble Config := do
  let text ← textOf files .config path fun _ => .badConfig path none
  (Config.ofYaml text).mapError fun e => .badConfig path (some e)

/-- A blank file holds the empty host state. -/
def loadHost (files : Files) (path : String) : Except Trouble HostState := do
  let text ← textOf files .host path .unreadable
  if isBlankText text then return {}
  else (HostState.ofYaml? text).elim (.error (.badInput .host path)) .ok

/-- A file that need not be given. -/
def loadOptional {α : Type} (files : Files) (source : Source) (default : α)
    (read? : String → Option α) : Option String → Except Trouble α
  | none => .ok default
  | some path => do
    let text ← textOf files source path fun _ => .badInput source path
    (read? text).elim (.error (.badInput source path)) .ok

def loadGlobals (files : Files) : Option String → Except Trouble Globals :=
  loadOptional files .globals {} Globals.ofYaml?

def loadSettings (files : Files) : Option String → Except Trouble Settings :=
  loadOptional files .engine {} Settings.ofYaml?

end LiveConfig.Command
