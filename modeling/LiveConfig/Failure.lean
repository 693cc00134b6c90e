import LiveConfig.Builtin
import LiveConfig.Expr.Parser
import LiveConfig.Value

set_option autoImplicit false

namespace LiveConfig

/-- What the arguments of a built-in function have to be. -/
inductive Requirement where
  | exactly (count given : Nat)
  | oneOrMore
  | twoOrMore
  | oneOrTwo
  | arrayFirst
  | textArrayOrObject
  | objectOrArray
  | numeric (given : Kind)
deriving DecidableEq, Repr

def Requirement.text : Requirement → String
  | .exactly count given => toString count ++ " argument(s), got " ++ toString given
  | .oneOrMore => "at least 1 argument"
  | .twoOrMore => "at least 2 arguments"
  | .oneOrTwo => "1 or 2 arguments"
  | .arrayFirst => "array as first argument"
  | .textArrayOrObject => "string, array, or object"
  | .objectOrArray => "object or array"
  | .numeric given => "numeric arguments, got " ++ given.name

inductive Failure where
  /-- The text is no expression. -/
  | malformed (e : Expr.ParseError)
  | undefined (name : String)
  /-- The output tree is read where no structure is being rewritten. -/
  | noOutput
  /-- A variable is read before its value has arrived. -/
  | pendingVariable (name : String)
  /-- A null receiver of `?.`; the enclosing chain turns this into null. -/
  | chainEnded
  | entryOfNull (key : String)
  | notIndexable (receiver index : Kind)
  | propertyOfNull (property : String)
  | noProperty (property : String) (receiver : Kind)
  | notNegatable (operand : Kind)
  | notNumeric (op : Arithmetic) (left right : Kind)
  | notComparable (op : Comparison) (left right : Kind)
  /-- An asynchronous function is called inside an expression. -/
  | nestedAsync (function : String)
  | unknownAsync (function : String)
  | unknownFunction (function : String)
  | badArguments (function : Builtin) (requirement : Requirement)
  /-- A failure that a host function answered. -/
  | host (message : String)

def Failure.message : Failure → String
  | .malformed e => "parse error: " ++ e.display
  | .undefined name => name ++ " is not defined"
  | .noOutput => "output is not defined"
  | .pendingVariable name => "variable '" ++ name ++ "' is still pending"
  | .chainEnded => "optional chain reached null"
  | .entryOfNull key => "cannot read '" ++ key ++ "' of null"
  | .notIndexable receiver index => "cannot index " ++ receiver.name ++ " with " ++ index.name
  | .propertyOfNull property => "cannot read property '" ++ property ++ "' of null"
  | .noProperty property receiver =>
    "cannot access property '" ++ property ++ "' on " ++ receiver.name
  | .notNegatable operand => "cannot negate " ++ operand.name
  | .notNumeric op left right =>
    "operator " ++ op.text ++ " requires numbers, got " ++ left.name ++ " and " ++ right.name
  | .notComparable op left right =>
    "operator " ++ op.text ++ " cannot compare " ++ left.name ++ " and " ++ right.name
  | .nestedAsync function =>
    "async function " ++ function ++ "() must be the whole expression or a ternary branch"
  | .unknownAsync function => "unknown async function: " ++ function
  | .unknownFunction function => "unknown function: " ++ function
  | .badArguments function requirement => function.name ++ "() requires " ++ requirement.text
  | .host message => message

/-- The message with the mark of its origin. -/
def Failure.display (failure : Failure) : String :=
  "evaluation error: " ++ failure.message

end LiveConfig
