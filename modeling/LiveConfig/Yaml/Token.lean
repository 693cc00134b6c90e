set_option autoImplicit false

namespace LiveConfig.Yaml

inductive Token where
  | documentStart
  | documentEnd
  | blockSequence
  | blockMapping
  | blockEnd
  | openBracket
  | closeBracket
  | openBrace
  | closeBrace
  /-- The dash before an entry of a block sequence. -/
  | dash
  | comma
  | key
  | value
  | scalar (text : String) (plain : Bool)
deriving DecidableEq, Repr

end LiveConfig.Yaml
