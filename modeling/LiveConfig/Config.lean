import LiveConfig.Engine
import LiveConfig.Value.Json
import LiveConfig.Variables.Declaration

set_option autoImplicit false

namespace LiveConfig

structure Config where
  kind : Option String := none
  /-- The entities whose changes call for a render; may be a template. -/
  entities : Option Value := none
  dynamicVariables : Option Declaration := none
  staticVariables : Option Declaration := none
  card : Option Value := none
  row : Option Value := none
  element : Option Value := none
  style : Option Value := none
deriving Inhabited

structure Globals where
  dynamicVariables : Option Declaration := none
  staticVariables : Option Declaration := none
deriving Inhabited

/-- Which body a configuration has. -/
inductive Section where
  | card
  | row
  | element
deriving DecidableEq, Repr

def Section.name : Section → String
  | .card => "card"
  | .row => "row"
  | .element => "element"

/-- Why a configuration is refused. -/
inductive ConfigError where
  /-- There is no document. -/
  | missing
  | noSection
  | noCardType
  | noElementType
  | noEntities
  /-- The text is no document of the right shape. -/
  | malformed
deriving DecidableEq, Repr

def ConfigError.message : ConfigError → String
  | .missing => "Invalid configuration"
  | .noSection => "No card or row or element defined"
  | .noCardType => "No card type defined"
  | .noElementType => "No element type defined"
  | .noEntities => "No entities defined"
  | .malformed => "Parse error"

namespace Config

/-- A body with a type that holds. -/
def hasType (body : Value) : Bool :=
  match body with
  | .object fields => ((Fields.find? "type" fields).map Value.truthy).getD false
  | _ => false

/-- Whether a configuration can be rendered. -/
def validate (config : Config) : Except ConfigError Unit :=
  if config.card.isNone && config.row.isNone && config.element.isNone then .error .noSection
  else if config.card.any (fun body => !hasType body) then .error .noCardType
  else if config.element.any (fun body => !hasType body) then .error .noElementType
  else if config.entities.isNone then .error .noEntities
  else .ok ()

/-- What a configuration that can be rendered is warned about. -/
def warnings (config : Config) : List ConfigWarning :=
  match config.card with
  | some (.object fields) =>
    match Fields.find? "type" fields with
    | some (.text "picture-elements") => [.pictureElements]
    | _ => []
  | _ => []

/-- The body: the card, or else the row, or else the element. -/
def body? (config : Config) : Option (Section × Value) :=
  match config.card, config.row, config.element with
  | some body, _, _ => some (.card, body)
  | none, some body, _ => some (.row, body)
  | none, none, some body => some (.element, body)
  | none, none, none => none

/-- A configuration that can be rendered has a body. -/
theorem isSome_body?_of_validate (config : Config) (valid : config.validate = .ok ()) :
    config.body?.isSome = true := by
  cases card : config.card <;> cases row : config.row <;> cases element : config.element <;>
    simp [validate, body?, card, row, element] at valid ⊢

end Config

/-- The written form of a declaration. -/
def Declaration.toValue : Declaration → Value
  | .positional values => .array values
  | .named values => .object values

/-- Named entries without those that are absent. -/
def presentFields (entries : List (String × Option Value)) : Value :=
  .object (entries.filterMap fun (name, value) => value.map fun v => (name, v))

def Config.toValue (config : Config) : Value :=
  presentFields [
    ("type", config.kind.map .text),
    ("entities", config.entities),
    ("variables", config.dynamicVariables.map Declaration.toValue),
    ("staticVariables", config.staticVariables.map Declaration.toValue),
    ("card", config.card),
    ("row", config.row),
    ("element", config.element),
    ("style", config.style)]

def Globals.toValue (globals : Globals) : Value :=
  presentFields [
    ("config_template_card_vars", globals.dynamicVariables.map Declaration.toValue),
    ("config_template_card_staticVars", globals.staticVariables.map Declaration.toValue)]

def Settings.toValue (settings : Settings) : Value :=
  .object [
    ("errorSentinel", settings.sentinel),
    ("interpolationError", .text settings.interpolationError)]

end LiveConfig
