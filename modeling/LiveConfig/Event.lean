import LiveConfig.Failure

set_option autoImplicit false

namespace LiveConfig

/-- Why an entity list selects nothing. -/
inductive EntityComplaint where
  | pending
  | notArray (kind : Kind)
deriving DecidableEq, Repr

def EntityComplaint.message : EntityComplaint → String
  | .pending => "entity list is still pending"
  | .notArray kind => "entity list evaluated to " ++ kind.name ++ ", expected an array"

/-- What a configuration may be warned about. -/
inductive ConfigWarning where
  | pictureElements
deriving DecidableEq, Repr

def ConfigWarning.message : ConfigWarning → String
  | .pictureElements =>
    "config-template should not wrap the picture-elements card itself, " ++
      "use it as one of the elements instead"

inductive Event where
  | expressionFailed (source : String) (failure : Failure)
  | entitiesIgnored (complaint : EntityComplaint)
  | staticsReady (generation : Nat)
  | staticsDiscarded (generation : Nat)
  | configWarning (warning : ConfigWarning)

end LiveConfig
