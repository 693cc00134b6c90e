import LiveConfig.Config
import LiveConfig.Text.Blank
import LiveConfig.Value.OfYaml
import LiveConfig.Yaml.Document

set_option autoImplicit false

/- Configurations, global variables, settings and host states out of YAML texts. The fields of these
records may be left out or null; fields that nobody knows are passed over, and a known field may
not come twice. -/

namespace LiveConfig

namespace Yaml

/-- How deep the collections of a document may be nested. -/
def maximalDepth : Nat := 128

/-- The room that is left for the fields of a record. -/
def fieldRoom : Nat := maximalDepth - 1

/-- The fields of a record. Nothing at all counts as a record without fields. -/
def record? (known : List String) : Yaml → Option (Fields Yaml)
  | .mapping entries => do
    let fields ← entries.mapM fun (key, value) => key.scalarText?.map (·, value)
    if known.all fun name => decide ((Fields.names fields).count name ≤ 1) then some fields
    else none
  | .scalar text plain => if plain && text.isEmpty then some [] else none
  | .sequence _ => none

/-- The field of the given name, unless it is null. -/
def present? (fields : Fields Yaml) (name : String) : Option Yaml :=
  (Fields.find? name fields).filter fun node => !node.isNull

/-- A field that may be absent; one that is there has to be readable. -/
def optional {α : Type} (read? : Yaml → Option α) (fields : Fields Yaml) (name : String) :
    Option (Option α) :=
  match present? fields name with
  | none => some none
  | some node => (read? node).map some

def valueField? : Fields Yaml → String → Option (Option Value) :=
  optional (Value.ofYaml? fieldRoom)

def declaration? (node : Yaml) : Option Declaration :=
  match Value.ofYaml? fieldRoom node with
  | some (.array values) => some (.positional values)
  | some (.object values) => some (.named values)
  | _ => none

def declarationField? : Fields Yaml → String → Option (Option Declaration) :=
  optional declaration?

/-- States by entity. The name of an entity may be written like any scalar. -/
def states? : Yaml → Option (Fields Value)
  | .mapping entries => do
    let states ← entries.mapM fun (key, node) => do
      let entity ← key.scalarText?
      let state ← Value.ofYaml? (fieldRoom - 1) node
      return (entity, state)
    return Fields.ofList states
  | .scalar text plain => if plain && text.isEmpty then some [] else none
  | .sequence _ => none

end Yaml

def isBlankText (text : String) : Bool :=
  (Text.trim text.toList).isEmpty

/-- The document in a text, unless the text is blank or the document null. -/
def document? (text : String) : Option (Option Yaml) :=
  if isBlankText text then some none
  else (Yaml.read? text).map fun root => root.filter fun node => !node.isNull

namespace Config

def knownFields : List String :=
  ["type", "entities", "variables", "staticVariables", "card", "row", "element", "style"]

def ofNode? (root : Yaml) : Option Config := do
  let fields ← root.record? knownFields
  let kind ← Yaml.optional Yaml.scalarText? fields "type"
  let entities ← Yaml.valueField? fields "entities"
  let dynamicVariables ← Yaml.declarationField? fields "variables"
  let staticVariables ← Yaml.declarationField? fields "staticVariables"
  let card ← Yaml.valueField? fields "card"
  let row ← Yaml.valueField? fields "row"
  let element ← Yaml.valueField? fields "element"
  let style ← Yaml.valueField? fields "style"
  return { kind, entities, dynamicVariables, staticVariables, card, row, element, style }

/-- Reads a configuration that can be rendered. -/
def ofYaml (text : String) : Except ConfigError Config :=
  match document? text with
  | none => .error .malformed
  | some none => .error .missing
  | some (some root) => do
    let config ← (ofNode? root).elim (.error .malformed) .ok
    config.validate
    return config

end Config

namespace Globals

def knownFields : List String :=
  ["config_template_card_vars", "config_template_card_staticVars"]

def ofNode? (root : Yaml) : Option Globals := do
  let fields ← root.record? knownFields
  let dynamicVariables ← Yaml.declarationField? fields "config_template_card_vars"
  let staticVariables ← Yaml.declarationField? fields "config_template_card_staticVars"
  return { dynamicVariables, staticVariables }

/-- Reads global variables; without a document there are none. -/
def ofYaml? (text : String) : Option Globals :=
  (document? text).bind fun root => root.elim (some {}) ofNode?

end Globals

namespace Settings

def knownFields : List String :=
  ["errorSentinel", "interpolationError"]

def ofNode? (root : Yaml) : Option Settings := do
  let fields ← root.record? knownFields
  let sentinel ← ((Fields.find? "errorSentinel" fields).map
    (Value.ofYaml? Yaml.fieldRoom)).getD (some ({} : Settings).sentinel)
  let interpolationError ← ((Fields.find? "interpolationError" fields).map
    Yaml.scalarText?).getD (some ({} : Settings).interpolationError)
  return { sentinel, interpolationError }

/-- Reads settings; without a document they are the default ones. -/
def ofYaml? (text : String) : Option Settings :=
  (document? text).bind fun root => root.elim (some {}) ofNode?

end Settings

namespace HostState

def knownFields : List String :=
  ["states", "user"]

def ofNode? (root : Yaml) : Option HostState := do
  let fields ← root.record? knownFields
  let states ← ((Fields.find? "states" fields).map Yaml.states?).getD (some [])
  let user ← ((Fields.find? "user" fields).map
    (Value.ofYaml? Yaml.fieldRoom)).getD (some .null)
  return { states, user }

/-- Reads a host state; without a document it is empty. A null document is no host state. -/
def ofYaml? (text : String) : Option HostState :=
  (Yaml.read? text).bind fun root => root.elim (some {}) ofNode?

end HostState

end LiveConfig
