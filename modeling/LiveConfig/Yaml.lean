set_option autoImplicit false

/- The nodes of a YAML document, as far as configurations are written with them: block and flow
collections of scalars. Anchors, tags, directives and block scalars are not read. -/

namespace LiveConfig

inductive Yaml where
  /-- A text; it is plain when no quotes stand around it. -/
  | scalar (text : String) (plain : Bool)
  | sequence (items : List Yaml)
  | mapping (entries : List (Yaml × Yaml))

namespace Yaml

/-- What stands where a node was left out. -/
def empty : Yaml :=
  .scalar "" true

end Yaml

end LiveConfig
