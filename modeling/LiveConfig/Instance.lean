import LiveConfig.Change
import LiveConfig.Readiness
import LiveConfig.Rendering

set_option autoImplicit false

namespace LiveConfig

/-- One templated card, row or element, with the static variables that are built once for each
generation. -/
structure Instance where
  engine : Engine := {}
  config : Option Config := none
  globals : Globals := {}
  host : Option HostState := none
  helpersLoaded : Bool := false
  statics : Option Environment := none
  /-- Counts the replacements of configuration and global variables. It has no largest value: that a
  counter of 64 bits starts again at zero after 2^64 replacements is left out. -/
  generation : Nat := 0
  /-- The configuration was replaced since the last render. -/
  dirty : Bool := false

/-- Static variables being built for one generation. -/
structure StaticBuild where
  generation : Nat
  outcome : Outcome Environment

namespace StaticBuild

/-- Takes up what has arrived. -/
def poll (build : StaticBuild) (journal : Journal) : Journal :=
  journal.poll build.outcome.calls

/-- The static variables, once all of them are there. -/
def environment? (calls : Calls) (build : StaticBuild) : Option Environment :=
  build.outcome.value? calls

end StaticBuild

namespace Instance

def readiness (i : Instance) : Readiness :=
  .ofInputs {
    hasConfig := i.config.isSome
    hasHost := i.host.isSome
    staticReady := i.statics.isSome
    helpersLoaded := i.helpersLoaded }

/-- Starts a new generation without static variables. -/
def invalidate (i : Instance) : Instance :=
  { i with statics := none, generation := i.generation + 1 }

/-- Replaces the configuration. One that cannot be rendered changes nothing. -/
def setConfig (i : Instance) (config : Config) (journal : Journal) :
    Except ConfigError (Instance × Journal) := do
  config.validate
  let journal := config.warnings.foldl (fun journal w => journal.emit (.configWarning w)) journal
  return ({ i with config := some config, dirty := true }.invalidate, journal)

def setGlobals (i : Instance) (globals : Globals) : Instance :=
  { i with globals }.invalidate

def setHost (i : Instance) (host : HostState) : Instance :=
  { i with host := some host }

def loadHelpers (i : Instance) : Instance :=
  { i with helpersLoaded := true }

/-- Starts to build the static variables of the current generation. -/
def beginStatic (i : Instance) (journal : Journal) : Option (StaticBuild × Journal) := do
  let config ← i.config
  let host ← i.host
  let (env, journal) := Environment.buildStatic i.engine host i.globals.staticVariables
    config.staticVariables journal
  return ({ generation := i.generation, outcome := env.outcome }, journal)

/-- Installs static variables, unless they were built for another generation. -/
def finishStatic (i : Instance) (generation : Nat) (env : Environment) (journal : Journal) :
    Bool × Instance × Journal :=
  if generation = i.generation then
    (true, { i with statics := some env }, journal.emit (.staticsReady generation))
  else (false, i, journal.emit (.staticsDiscarded generation))

/-- Builds and installs the static variables if there are none. Without an answer some of them are
still under way, and nothing is installed. -/
def prepare (i : Instance) (journal : Journal) : Option Readiness × Instance × Journal :=
  if i.statics.isSome then (some i.readiness, i, journal)
  else
    match i.beginStatic journal with
    | none => (some i.readiness, i, journal)
    | some (build, journal) =>
      let journal := build.poll journal
      match build.environment? journal.calls with
      | none => (none, i, journal)
      | some env =>
        let (_, i, journal) := i.finishStatic build.generation env journal
        (some i.readiness, i, journal)

/-- Whether going from an earlier host to the current one calls for a render. -/
def shouldUpdate (i : Instance) (previous : Option HostState) (journal : Journal) :
    Bool × Journal :=
  if !i.readiness.isReady || i.dirty then (true, journal)
  else
    match previous, i.host, i.config, i.statics with
    | some previous, some host, some config, some statics =>
      (Change.detect? i.engine previous host statics i.globals.dynamicVariables
        config.dynamicVariables config.entities journal).getD (true, journal)
    | _, _, _, _ => (true, journal)

/-- What a render of a ready instance depends on. -/
def renderSource? (i : Instance) : Option RenderSource := do
  if i.readiness.isReady then
    let config ← i.config
    let host ← i.host
    let statics ← i.statics
    let (kind, body) ← config.body?
    return { engine := i.engine, host, statics, kind, body
             style := config.style.getD .emptyObject }
  else none

/-- The dynamic variables that a render starts with. -/
def buildDynamic? (i : Instance) (source : RenderSource) (journal : Journal) :
    Option (Environment × Journal) :=
  Environment.buildDynamic? i.engine source.host source.statics i.globals.dynamicVariables
    (i.config.bind (·.dynamicVariables)) journal

/-- Starts a render against the current host; only a ready instance can. -/
def render (i : Instance) (journal : Journal) : Option (Rendering × Instance × Journal) := do
  let source ← i.renderSource?
  let (dynamics, journal) ← i.buildDynamic? source journal
  let (rendering, journal) := Rendering.start source dynamics journal
  return (rendering, { i with dirty := false }, journal)

/-- Evaluates an expression against the current host, with the static variables alone. -/
def evaluate (i : Instance) (source : String) (journal : Journal) : Outcome Value × Journal :=
  i.engine.evaluate { host := i.host.getD {}, statics := i.statics } source journal

end Instance

end LiveConfig
