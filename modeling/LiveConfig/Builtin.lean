import LiveConfig.Text.Case

set_option autoImplicit false

namespace LiveConfig

/-- The functions every expression can call. Their names are matched without regard to case. -/
inductive Builtin where
  | contains
  | startsWith
  | endsWith
  | format
  | join
  | replace
  | split
  | lower
  | upper
  | trim
  | toJson
  | number
  | string
  | round
  | floor
  | ceil
  | abs
  | min
  | max
  | keys
  | values
  | isIn
  | coalesce
  | iif
  | length
deriving DecidableEq, Repr

namespace Builtin

/-- The name that messages show. -/
def name : Builtin → String
  | .contains => "contains"
  | .startsWith => "startsWith"
  | .endsWith => "endsWith"
  | .format => "format"
  | .join => "join"
  | .replace => "replace"
  | .split => "split"
  | .lower => "lower"
  | .upper => "upper"
  | .trim => "trim"
  | .toJson => "toJson"
  | .number => "number"
  | .string => "string"
  | .round => "round"
  | .floor => "floor"
  | .ceil => "ceil"
  | .abs => "abs"
  | .min => "min"
  | .max => "max"
  | .keys => "keys"
  | .values => "values"
  | .isIn => "in"
  | .coalesce => "coalesce"
  | .iif => "iif"
  | .length => "length"

/-- Every name a built-in function goes by, in lower case. -/
def table : List (String × Builtin) := [
  ("contains", .contains), ("startswith", .startsWith), ("endswith", .endsWith),
  ("format", .format), ("join", .join), ("replace", .replace), ("split", .split),
  ("lower", .lower), ("tolowercase", .lower), ("upper", .upper), ("touppercase", .upper),
  ("trim", .trim), ("tojson", .toJson), ("number", .number), ("string", .string),
  ("round", .round), ("floor", .floor), ("ceil", .ceil), ("abs", .abs), ("min", .min),
  ("max", .max), ("keys", .keys), ("values", .values), ("in", .isIn), ("coalesce", .coalesce),
  ("iif", .iif), ("length", .length)]

/-- The form of a function name that decides which function is meant. -/
def foldName (name : String) : String :=
  String.ofList (Text.toLower name.toList)

def ofName? (name : String) : Option Builtin :=
  table.lookup (foldName name)

end Builtin

end LiveConfig
