set_option autoImplicit false

namespace LiveConfig

inductive UnaryOp where
  | not
  | negate
deriving DecidableEq, Repr

inductive Arithmetic where
  | add
  | subtract
  | multiply
  | divide
  | modulo
deriving DecidableEq, Repr

inductive Comparison where
  | less
  | lessEqual
  | greater
  | greaterEqual
deriving DecidableEq, Repr

/-- Operators that yield one of their operands and may leave the right one unevaluated. -/
inductive Logical where
  | and
  | or
  | nullish
deriving DecidableEq, Repr

inductive BinaryOp where
  | arithmetic (op : Arithmetic)
  | equal
  | unequal
  | comparison (op : Comparison)
  | logical (op : Logical)
deriving DecidableEq, Repr

def Arithmetic.text : Arithmetic → String
  | .add => "+"
  | .subtract => "-"
  | .multiply => "*"
  | .divide => "/"
  | .modulo => "%"

def Comparison.text : Comparison → String
  | .less => "<"
  | .lessEqual => "<="
  | .greater => ">"
  | .greaterEqual => ">="

def Logical.text : Logical → String
  | .and => "&&"
  | .or => "||"
  | .nullish => "??"

def BinaryOp.text : BinaryOp → String
  | .arithmetic op => op.text
  | .equal => "=="
  | .unequal => "!="
  | .comparison op => op.text
  | .logical op => op.text

inductive Expr where
  | null
  | bool (b : Bool)
  | number (x : Float)
  | text (s : String)
  /-- A bare name, resolved in the scope. -/
  | name (s : String)
  /-- A function call; in the method form the receiver is the first argument. -/
  | call (function : String) (arguments : List Expr)
  | index (object index : Expr)
  | member (object : Expr) (property : String)
  /-- The receiver before `?.`: null here ends the enclosing chain. -/
  | guard (receiver : Expr)
  /-- A postfix chain that contains `?.`. -/
  | chain (body : Expr)
  | unary (op : UnaryOp) (operand : Expr)
  | binary (op : BinaryOp) (left right : Expr)
  | ternary (condition yes no : Expr)
  | array (items : List Expr)
  | object (fields : List (String × Expr))
deriving Inhabited

end LiveConfig
