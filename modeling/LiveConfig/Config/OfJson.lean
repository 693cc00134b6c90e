import LiveConfig.Config

set_option autoImplicit false

namespace LiveConfig

/-- The field of the given name, unless it is null. -/
def presentField (fields : Fields Value) (name : String) : Option Value :=
  match Fields.find? name fields with
  | some .null => none
  | found => found

/-- No declaration, one without names, or one with names. -/
def Declaration.ofJson? : Value → Option (Option Declaration)
  | .null => some none
  | .array values => some (some (.positional values))
  | .object values => some (some (.named values))
  | _ => none

def Declaration.ofField? (fields : Fields Value) (name : String) : Option (Option Declaration) :=
  Declaration.ofJson? (Value.field fields name)

def HostState.ofJson? : Value → Option HostState
  | .object fields =>
    match Fields.find? "states" fields with
    | none => some { user := Value.field fields "user" }
    | some (.object states) => some { states, user := Value.field fields "user" }
    | some _ => none
  | _ => none

def Settings.ofJson? : Value → Option Settings
  | .object fields =>
    match Fields.find? "interpolationError" fields with
    | none => some { sentinel := Value.field fields "errorSentinel" }
    | some (.text s) =>
      some { sentinel := Value.field fields "errorSentinel", interpolationError := s }
    | some _ => none
  | _ => none

/-- An absent text, or a text. -/
def textField? (fields : Fields Value) (name : String) : Option (Option String) :=
  match presentField fields name with
  | none => some none
  | some (.text s) => some (some s)
  | some _ => none

def Config.ofJson? : Value → Option Config
  | .object fields => do
    let kind ← textField? fields "type"
    let dynamicVariables ← Declaration.ofField? fields "variables"
    let staticVariables ← Declaration.ofField? fields "staticVariables"
    return {
      kind, dynamicVariables, staticVariables
      entities := presentField fields "entities"
      card := presentField fields "card"
      row := presentField fields "row"
      element := presentField fields "element"
      style := presentField fields "style" }
  | _ => none

def Globals.ofJson? : Value → Option Globals
  | .object fields => do
    let dynamicVariables ← Declaration.ofField? fields "config_template_card_vars"
    let staticVariables ← Declaration.ofField? fields "config_template_card_staticVars"
    return { dynamicVariables, staticVariables }
  | _ => none

end LiveConfig
