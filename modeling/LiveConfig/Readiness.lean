set_option autoImplicit false

namespace LiveConfig

inductive Readiness where
  /-- Configuration or host are missing. -/
  | uninitialized
  | awaitingStatic
  | awaitingHelpers
  | ready
deriving DecidableEq, Repr

namespace Readiness

/-- What an instance has so far. -/
structure Inputs where
  hasConfig : Bool
  hasHost : Bool
  staticReady : Bool
  helpersLoaded : Bool

/-- The first step that is missing. -/
def ofInputs (inputs : Inputs) : Readiness :=
  if !inputs.hasConfig || !inputs.hasHost then .uninitialized
  else if !inputs.staticReady then .awaitingStatic
  else if !inputs.helpersLoaded then .awaitingHelpers
  else .ready

def isReady (readiness : Readiness) : Bool :=
  readiness == .ready

def describe : Readiness → String
  | .uninitialized => "uninitialized"
  | .awaitingStatic => "awaiting static variables"
  | .awaitingHelpers => "awaiting helpers"
  | .ready => "ready"

theorem ofInputs_eq_ready_iff (inputs : Inputs) :
    ofInputs inputs = .ready ↔
      inputs.hasConfig = true ∧ inputs.hasHost = true ∧ inputs.staticReady = true ∧
        inputs.helpersLoaded = true := by
  obtain ⟨config, host, statics, helpers⟩ := inputs
  cases config <;> cases host <;> cases statics <;> cases helpers <;> decide

end Readiness

end LiveConfig
