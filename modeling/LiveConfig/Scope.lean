import LiveConfig.Host
import LiveConfig.Variables.Environment

set_option autoImplicit false

namespace LiveConfig

/-- What the names of an expression stand for, as the calls stand at that moment. -/
structure Scope where
  host : HostState
  statics : Option Environment := none
  dynamics : Option Environment := none
  /-- The tree that is being rewritten, if one is. -/
  output : Option Partial := none
  calls : Calls := []

namespace Scope

/-- The entry of a variable; dynamic variables hide static ones. -/
def binding? (scope : Scope) (name : String) : Option Partial :=
  (scope.dynamics.bind (·.find? name)).orElse fun _ => scope.statics.bind (·.find? name)

def viewOf (calls : Calls) : Option Environment → Value
  | some env => env.view calls
  | none => .emptyObject

/-- The names that every scope has. -/
def builtinName (scope : Scope) (name : String) : Except Failure Value :=
  if name = "states" then .ok (.object scope.host.states)
  else if name = "user" then .ok scope.host.user
  else if name = "hass" then .ok scope.host.view
  else if name = "vars" then .ok (viewOf scope.calls scope.dynamics)
  else if name = "svars" then .ok (viewOf scope.calls scope.statics)
  else if name = "output" then
    match scope.output with
    | some tree => .ok (tree.toValue scope.calls)
    | none => .error .noOutput
  else .error (.undefined name)

/-- What a bare name stands for. A variable still under way is an error, never null. -/
def lookup (scope : Scope) (name : String) : Except Failure Value :=
  match scope.binding? name with
  | some entry =>
    if entry.isSettled scope.calls then .ok (entry.toValue scope.calls)
    else .error (.pendingVariable name)
  | none => scope.builtinName name

/-- The state of an entity, for `states` that no variable hides: one entry without the whole
object. -/
def entry? (scope : Scope) (name key : String) : Option Value :=
  if name = "states" ∧ scope.binding? name = none then
    some ((scope.host.state? key).getD .null)
  else none

end Scope

end LiveConfig
