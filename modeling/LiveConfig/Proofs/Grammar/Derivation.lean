import LiveConfig.Expr.Parser

set_option autoImplicit false

/- The grammar of the expression language as derivations: which lists of tokens are written for
which trees. Nothing here looks ahead or says in which order tokens are read. -/

namespace LiveConfig

/-- The binary operators by how tightly they bind, loosest first. -/
def BinaryOp.precedence : BinaryOp → Nat
  | .logical .nullish => 0
  | .logical .or => 1
  | .logical .and => 2
  | .equal => 3
  | .unequal => 3
  | .comparison _ => 4
  | .arithmetic .add => 5
  | .arithmetic .subtract => 5
  | .arithmetic .multiply => 6
  | .arithmetic .divide => 6
  | .arithmetic .modulo => 6

def BinaryOp.symbol : BinaryOp → Symbol
  | .logical .nullish => .nullish
  | .logical .or => .or
  | .logical .and => .and
  | .equal => .equal
  | .unequal => .unequal
  | .comparison .less => .less
  | .comparison .lessEqual => .lessEqual
  | .comparison .greater => .greater
  | .comparison .greaterEqual => .greaterEqual
  | .arithmetic .add => .plus
  | .arithmetic .subtract => .minus
  | .arithmetic .multiply => .star
  | .arithmetic .divide => .slash
  | .arithmetic .modulo => .percent

def UnaryOp.symbol : UnaryOp → Symbol
  | .not => .not
  | .negate => .minus

namespace Grammar

mutual

/-- Conditions with two branches bind loosest and nest to the right. -/
inductive Whole : List Token → Expr → Prop where
  | plain {ts : List Token} {e : Expr} (body : Binary 0 ts e) : Whole ts e
  | choice {cs ys ns : List Token} {c y n : Expr} (condition : Binary 0 cs c) (yes : Whole ys y)
      (no : Whole ns n) :
      Whole (cs ++ .symbol .question :: ys ++ .symbol .colon :: ns) (.ternary c y n)

/-- Binary operators of at least the given precedence; those of one precedence nest to the left. -/
inductive Binary : Nat → List Token → Expr → Prop where
  | operator {level : Nat} {ls rs : List Token} {l r : Expr} (op : BinaryOp)
      (tied : op.precedence = level) (left : Binary level ls l) (right : Binary (level + 1) rs r) :
      Binary level (ls ++ .symbol op.symbol :: rs) (.binary op l r)
  | tighter {level : Nat} {ts : List Token} {e : Expr} (looser : level < 7)
      (body : Binary (level + 1) ts e) : Binary level ts e
  | operand {ts : List Token} {e : Expr} (body : Unary ts e) : Binary 7 ts e

/-- Operators in front of a postfix chain. A chain is marked once, as a whole, when one of its steps
is optional. -/
inductive Unary : List Token → Expr → Prop where
  | operator {ts : List Token} {e : Expr} (op : UnaryOp) (operand : Unary ts e) :
      Unary (.symbol op.symbol :: ts) (.unary op e)
  | strict {ts : List Token} {e : Expr} (chain : Chain ts false e) : Unary ts e
  | optional {ts : List Token} {e : Expr} (chain : Chain ts true e) : Unary ts (.chain e)

/-- Members, method calls and indexes behind a primary expression; the flag tells whether one of
them is optional. The receiver of a method is its first argument. -/
inductive Chain : List Token → Bool → Expr → Prop where
  | primary {ts : List Token} {e : Expr} (head : Primary ts e) : Chain ts false e
  | member {ts : List Token} {optional : Bool} {e : Expr} (receiver : Chain ts optional e)
      (property : String) :
      Chain (ts ++ [.symbol .dot, .name property]) optional (.member e property)
  | optionalMember {ts : List Token} {optional : Bool} {e : Expr} (receiver : Chain ts optional e)
      (property : String) :
      Chain (ts ++ [.symbol .optionalDot, .name property]) true (.member (.guard e) property)
  | method {ts us : List Token} {optional : Bool} {e : Expr} {arguments : List Expr}
      (receiver : Chain ts optional e) (function : String) (passed : Arguments us arguments) :
      Chain (ts ++ .symbol .dot :: .name function :: us) optional (.call function (e :: arguments))
  | optionalMethod {ts us : List Token} {optional : Bool} {e : Expr} {arguments : List Expr}
      (receiver : Chain ts optional e) (function : String) (passed : Arguments us arguments) :
      Chain (ts ++ .symbol .optionalDot :: .name function :: us) true
        (.call function (.guard e :: arguments))
  | index {ts us : List Token} {optional : Bool} {e place : Expr} (receiver : Chain ts optional e)
      (position : Whole us place) :
      Chain (ts ++ .symbol .openBracket :: us ++ [.symbol .closeBracket]) optional
        (.index e place)

inductive Primary : List Token → Expr → Prop where
  | null : Primary [.null] .null
  | bool (b : Bool) : Primary [.bool b] (.bool b)
  | number (x : Float) : Primary [.number x] (.number x)
  | text (s : String) : Primary [.text s] (.text s)
  | name (s : String) : Primary [.name s] (.name s)
  | call {ts : List Token} {arguments : List Expr} (function : String)
      (passed : Arguments ts arguments) : Primary (.name function :: ts) (.call function arguments)
  | group {ts : List Token} {e : Expr} (body : Whole ts e) :
      Primary (.symbol .openParen :: ts ++ [.symbol .closeParen]) e
  | array {ts : List Token} {items : List Expr} (body : Items ts items) :
      Primary (.symbol .openBracket :: ts ++ [.symbol .closeBracket]) (.array items)
  | object {ts : List Token} {fields : List (String × Expr)} (body : Entries ts fields) :
      Primary (.symbol .openBrace :: ts ++ [.symbol .closeBrace]) (.object fields)

inductive Arguments : List Token → List Expr → Prop where
  | mk {ts : List Token} {items : List Expr} (body : Items ts items) :
      Arguments (.symbol .openParen :: ts ++ [.symbol .closeParen]) items

/-- Expressions with commas between them; a comma may stand after the last one. -/
inductive Items : List Token → List Expr → Prop where
  | none : Items [] []
  | last {ts : List Token} {e : Expr} (item : Whole ts e) : Items ts [e]
  | more {ts us : List Token} {e : Expr} {items : List Expr} (item : Whole ts e)
      (rest : Items us items) : Items (ts ++ .symbol .comma :: us) (e :: items)

/-- The entries of an object literal, like the items of an array. -/
inductive Entries : List Token → List (String × Expr) → Prop where
  | none : Entries [] []
  | last {ts : List Token} {field : String × Expr} (entry : Entry ts field) : Entries ts [field]
  | more {ts us : List Token} {field : String × Expr} {fields : List (String × Expr)}
      (entry : Entry ts field) (rest : Entries us fields) :
      Entries (ts ++ .symbol .comma :: us) (field :: fields)

/-- A key, which is a name or a text, and its value. -/
inductive Entry : List Token → String × Expr → Prop where
  | name {ts : List Token} {e : Expr} (key : String) (value : Whole ts e) :
      Entry (.name key :: .symbol .colon :: ts) (key, e)
  | text {ts : List Token} {e : Expr} (key : String) (value : Whole ts e) :
      Entry (.text key :: .symbol .colon :: ts) (key, e)

end

end Grammar

end LiveConfig
