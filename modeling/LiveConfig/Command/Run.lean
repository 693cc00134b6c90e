import LiveConfig.Command.Arguments
import LiveConfig.Command.Help
import LiveConfig.Command.Input
import LiveConfig.Command.Report
import LiveConfig.Instance

set_option autoImplicit false

namespace LiveConfig.Command

/-- How a run ends. -/
inductive Ending where
  | finished (output : String) (report : String)
  | troubled (trouble : Trouble) (report : String)
  /-- The arguments ask for nothing that can be done. -/
  | misuse

def delayMisuse : String := "delay expects a number of milliseconds"

/-- Answers with the second argument. The value is there whenever it is asked for. -/
def delay (args : List Value) : Reply :=
  match args.head?.bind Value.number? with
  | some _ => .finished (.ok (args[1]?.getD .null))
  | none => .finished (.error delayMisuse)

def engineOf (settings : Settings) : Engine :=
  { settings, registry := ({} : Registry).register "delay" (.async delay) }

/-- All that a task works with. -/
structure Setup where
  subject : Instance
  journal : Journal

/-- An instance with everything set but its static variables. -/
def setUp (path : String) (settings : Settings) (globals : Globals) (config : Config)
    (host : HostState) : Except Trouble Setup := do
  let bare : Instance := { engine := engineOf settings }
  let (subject, journal) ←
    ((bare.setGlobals globals).setConfig config {}).mapError fun e => .badConfig path (some e)
  return { subject := (subject.setHost host).loadHelpers, journal }

/-- The outcome of a render whose calls answer when they are asked. -/
def settle (rendering : Rendering) (journal : Journal) : Option Rendered × Journal :=
  match rendering.rendered? journal.calls with
  | some rendered => (some rendered, journal)
  | none =>
    let (rendering, journal) := rendering.poll journal
    (rendering.rendered? journal.calls, journal)

/-- A render that was started. -/
structure Started where
  subject : Instance
  rendering : Rendering
  journal : Journal

/-- Builds the static variables and starts a render. -/
def start (setup : Setup) : Except (Trouble × Journal) Started :=
  let (_, subject, journal) := setup.subject.prepare setup.journal
  match subject.render journal with
  | none => .error (.notReady subject.readiness, journal)
  | some (rendering, subject, journal) => .ok { subject, rendering, journal }

def reportOf (lines : List Line) (journal : Journal) (last : List Line) : String :=
  renderLines (lines ++ journal.events.map Line.ofEvent ++ last)

def stuck (lines : List Line) (subject : Instance) (journal : Journal) : Ending :=
  .troubled (.notReady subject.readiness) (reportOf lines journal [])

def runRender (setup : Setup) (path : String) (compact : Bool) : Ending :=
  let header := [Line.header "Rendering" path]
  match start setup with
  | .error (trouble, journal) => .troubled trouble (reportOf header journal [])
  | .ok started =>
    let waiting := (started.rendering.rendered? started.journal.calls).isNone
    let lines := if waiting then header ++ [.note "waiting for pending values..."] else header
    match settle started.rendering started.journal with
    | (none, journal) => stuck lines started.subject journal
    | (some rendered, journal) =>
      let json :=
        if compact then rendered.toValue.toJson else rendered.toValue.toIndentedJson 0
      .finished (json ++ "\n")
        (reportOf lines journal [.done ("Rendered " ++ rendered.kind.name)])

/-- Renders against the old host and asks about the new one. -/
def runCheck (setup : Setup) (path : String) (old new : HostState) : Ending :=
  let header := [Line.header "Checking" path]
  match start setup with
  | .error (trouble, journal) => .troubled trouble (reportOf header journal [])
  | .ok started =>
    match settle started.rendering started.journal with
    | (none, journal) => stuck header started.subject journal
    | (some _, journal) =>
      let (changed, journal) := (started.subject.setHost new).shouldUpdate (some old) journal
      let verdict :=
        if changed then Line.done "Re-render warranted" else .note "No observable change"
      .finished ((if changed then "true" else "false") ++ "\n") (reportOf header journal [verdict])

/-- Loads the files of a task in order and performs it. -/
def Invocation.perform (files : Files) : Invocation → Except Trouble Ending
  | .render sources states compact => do
    let config ← loadConfig files sources.config
    let host ← loadHost files states
    let globals ← loadGlobals files sources.globals
    let settings ← loadSettings files sources.engine
    let setup ← setUp sources.config settings globals config host
    return runRender setup sources.config compact
  | .check sources old new => do
    let config ← loadConfig files sources.config
    let oldHost ← loadHost files old
    let newHost ← loadHost files new
    let globals ← loadGlobals files sources.globals
    let settings ← loadSettings files sources.engine
    let setup ← setUp sources.config settings globals config oldHost
    return runCheck setup sources.config oldHost newHost

/-- What a run with some arguments does. -/
def run (files : Files) (args : List String) : Ending :=
  match Request.ofArguments args with
  | .misuse => .misuse
  | .version => .finished versionText ""
  | .help topic => .finished topic.text ""
  | .perform invocation =>
    match invocation.perform files with
    | .ok ending => ending
    | .error trouble => .troubled trouble ""

/-- The paths that a run may read. -/
def Invocation.paths : Invocation → List String
  | .render sources states _ =>
    [sources.config, states] ++ sources.globals.toList ++ sources.engine.toList
  | .check sources old new =>
    [sources.config, old, new] ++ sources.globals.toList ++ sources.engine.toList

end LiveConfig.Command
