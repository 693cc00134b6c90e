import LiveConfig.Config
import LiveConfig.Variables.Build

set_option autoImplicit false

namespace LiveConfig

/-- The outcome of a render. -/
structure Rendered where
  kind : Section
  body : Value
  style : Value

namespace Rendered

/-- The style that an element carries itself. -/
def elementStyle? (rendered : Rendered) : Option Value :=
  match rendered.kind, rendered.body with
  | .element, .object fields => Fields.find? "style" fields
  | _, _ => none

def toValue (rendered : Rendered) : Value :=
  presentFields [
    ("kind", some (.text rendered.kind.name)),
    ("section", some rendered.body),
    ("style", some rendered.style),
    ("element_style", rendered.elementStyle?)]

end Rendered

/-- All that a render depends on, the dynamic variables apart. -/
structure RenderSource where
  engine : Engine
  host : HostState
  statics : Environment
  kind : Section
  body : Value
  style : Value

/-- Body and style under evaluation. A render keeps all that it was started with, so nothing that
happens to the instance later can be seen in it. -/
inductive Rendering where
  /-- The dynamic variables are under way. -/
  | awaitingVariables (source : RenderSource) (dynamics : Deferred Environment)
  /-- Body and style are evaluated, maybe with results still under way. -/
  | leaves (kind : Section) (body style : Walk)

namespace Rendering

/-- Evaluates the body and then the style. -/
def evaluate (source : RenderSource) (dynamics : Environment) (journal : Journal) :
    Rendering × Journal :=
  let scope := { host := source.host, statics := some source.statics, dynamics := some dynamics }
  let (body, journal) := Walk.run source.engine scope source.body journal
  let (style, journal) := Walk.run source.engine scope source.style journal
  (.leaves source.kind body style, journal)

/-- Starts a render with dynamic variables that were just built. -/
def start (source : RenderSource) (dynamics : Environment) (journal : Journal) :
    Rendering × Journal :=
  match dynamics.outcome with
  | .ready dynamics => evaluate source dynamics journal
  | .pending d => (.awaitingVariables source d, journal)

/-- Takes up what has arrived for the body and then for the style. -/
def pollLeaves (kind : Section) (body style : Walk) (journal : Journal) : Rendering × Journal :=
  let (body, journal) := body.poll journal
  let (style, journal) := style.poll journal
  (.leaves kind body style, journal)

/-- Takes up what has arrived. Once all variables have arrived, body and style are evaluated and
taken up at the same time. -/
def poll (rendering : Rendering) (journal : Journal) : Rendering × Journal :=
  match rendering with
  | .awaitingVariables source d =>
    let journal := journal.poll d.calls
    match d.value? journal.calls with
    | none => (.awaitingVariables source d, journal)
    | some dynamics =>
      match evaluate source dynamics journal with
      | (.leaves kind body style, journal) => pollLeaves kind body style journal
      | other => other
  | .leaves kind body style => pollLeaves kind body style journal

/-- The outcome, once nothing is under way any more. -/
def rendered? (calls : Calls) : Rendering → Option Rendered
  | .awaitingVariables _ _ => none
  | .leaves kind body style =>
    if body.isDone && style.isDone then
      some { kind, body := body.tree.toValue calls, style := style.tree.toValue calls }
    else none

end Rendering

end LiveConfig
