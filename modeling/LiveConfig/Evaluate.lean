import LiveConfig.Scope

set_option autoImplicit false

namespace LiveConfig

namespace Value

/-- Null counts as zero. -/
def operand? : Value → Option Float
  | .null => some 0
  | v => v.number?

def negate (v : Value) : Except Failure Value :=
  match v.operand? with
  | some x => .ok (.number (-x))
  | none => .error (.notNegatable v.kind)

/-- A number that is a place in a list. -/
def place? (x : Float) : Option Nat :=
  match Number.read x with
  | .finite parts =>
    if parts.integral ∧ (parts.negative = false ∨ parts.significand = 0) then some parts.whole
    else none
  | .nan => none
  | .infinite _ => none

/-- The entry of a container under an index; a missing entry is null. -/
def entry (container index : Value) : Except Failure Value :=
  match container, index with
  | .array items, .number x => .ok (((place? x).bind (items[·]?)).getD .null)
  | .array items, .text key =>
    if key = "length" then .ok (.ofNat items.length) else .error (.notIndexable .array .string)
  | .object fields, .text key => .ok (field fields key)
  | .object fields, .number x => .ok (field fields (Value.number x).toText)
  | .text s, .number x =>
    match (place? x).bind (s.toList[·]?) with
    | some c => .ok (.text c.toString)
    | none => .ok .null
  | .null, _ => .error (.entryOfNull index.toText)
  | _, _ => .error (.notIndexable container.kind index.kind)

/-- A property of a value; a missing entry of an object is null. -/
def property (container : Value) (name : String) : Except Failure Value :=
  match container with
  | .object fields => .ok (field fields name)
  | .array items =>
    if name = "length" then .ok (.ofNat items.length) else .error (.noProperty name .array)
  | .text s =>
    if name = "length" then .ok (.ofNat s.length) else .error (.noProperty name .string)
  | .null => .error (.propertyOfNull name)
  | _ => .error (.noProperty name container.kind)

end Value

namespace Arithmetic

def apply : Arithmetic → Float → Float → Float
  | .add, x, y => x + y
  | .subtract, x, y => x - y
  | .multiply, x, y => x * y
  | .divide, x, y => x / y
  | .modulo, x, y => Number.remainder x y

def onNumbers (op : Arithmetic) (left right : Value) : Except Failure Value :=
  match left.operand?, right.operand? with
  | some x, some y => .ok (.number (op.apply x y))
  | _, _ => .error (.notNumeric op left.kind right.kind)

/-- Texts and containers are joined to text rather than added. -/
def joins : Value → Bool
  | .text _ => true
  | .array _ => true
  | .object _ => true
  | _ => false

def onValues (op : Arithmetic) (left right : Value) : Except Failure Value :=
  match op with
  | .add =>
    if joins left || joins right then .ok (.text (left.toText ++ right.toText))
    else onNumbers .add left right
  | op => onNumbers op left right

end Arithmetic

namespace Comparison

def holds : Comparison → Ordering → Bool
  | .less, order => order == .lt
  | .lessEqual, order => order != .gt
  | .greater, order => order == .gt
  | .greaterEqual, order => order != .lt

/-- Texts are ordered by their code points. -/
def orderTexts (s t : String) : Ordering :=
  if s < t then .lt else if s = t then .eq else .gt

/-- NaN stands in no order to any number. -/
def orderNumbers? (x y : Float) : Option Ordering :=
  if x < y then some .lt else if x == y then some .eq else if y < x then some .gt else none

def onValues (op : Comparison) (left right : Value) : Except Failure Value :=
  match left, right with
  | .text s, .text t => .ok (.bool (op.holds (orderTexts s t)))
  | left, right =>
    match left.operand?, right.operand? with
    | some x, some y => .ok (.bool ((orderNumbers? x y).any op.holds))
    | _, _ => .error (.notComparable op left.kind right.kind)

end Comparison

/-- Whether the left operand of a logical operator is already its value. -/
def Logical.decided (op : Logical) (left : Value) : Bool :=
  match op with
  | .and => !left.truthy
  | .or => left.truthy
  | .nullish => !left.isNull

def UnaryOp.apply (op : UnaryOp) (operand : Value) : Except Failure Value :=
  match op with
  | .not => .ok (.bool (!operand.truthy))
  | .negate => operand.negate

/-- Null ends the chain. -/
def guardNull (v : Value) : Except Failure Value :=
  match v with
  | .null => .error .chainEnded
  | v => .ok v

namespace Expr

/-- The state of an entity that is read by name, without the object of all states. -/
def shortcut? (scope : Scope) (container : Expr) (index : Value) : Option Value :=
  match container, index with
  | .name s, .text key => scope.entry? s key
  | _, _ => none

mutual

/-- The value of an expression. -/
def eval (registry : Registry) (scope : Scope) : Expr → Except Failure Value
  | .null => .ok .null
  | .bool b => .ok (.bool b)
  | .number x => .ok (.number x)
  | .text s => .ok (.text s)
  | .name s => scope.lookup s
  | .call function arguments => do
    registry.call function (← evalAll registry scope arguments)
  | .index container position => do
    let key ← eval registry scope position
    match shortcut? scope container key with
    | some value => return value
    | none => (← eval registry scope container).entry key
  | .member receiver property => do
    (← eval registry scope receiver).property property
  | .guard receiver => do
    guardNull (← eval registry scope receiver)
  | .chain body =>
    match eval registry scope body with
    | .error .chainEnded => .ok .null
    | result => result
  | .unary op operand => do
    op.apply (← eval registry scope operand)
  | .binary (.logical op) left right => do
    let decisive ← eval registry scope left
    if op.decided decisive then return decisive else eval registry scope right
  | .binary (.arithmetic op) left right => do
    let x ← eval registry scope left
    let y ← eval registry scope right
    op.onValues x y
  | .binary (.comparison op) left right => do
    let x ← eval registry scope left
    let y ← eval registry scope right
    op.onValues x y
  | .binary .equal left right => do
    let x ← eval registry scope left
    let y ← eval registry scope right
    return .bool (x.loose y)
  | .binary .unequal left right => do
    let x ← eval registry scope left
    let y ← eval registry scope right
    return .bool (!x.loose y)
  | .ternary condition yes no => do
    if (← eval registry scope condition).truthy then eval registry scope yes
    else eval registry scope no
  | .array items => do
    return .array (← evalAll registry scope items)
  | .object fields => do
    return .object (Fields.ofList (← evalFields registry scope fields))

/-- The values of expressions, from the left. -/
def evalAll (registry : Registry) (scope : Scope) : List Expr → Except Failure (List Value)
  | [] => .ok []
  | e :: rest => do
    let value ← eval registry scope e
    return value :: (← evalAll registry scope rest)

def evalFields (registry : Registry) (scope : Scope) :
    List (String × Expr) → Except Failure (List (String × Value))
  | [] => .ok []
  | (key, e) :: rest => do
    let value ← eval registry scope e
    return (key, value) :: (← evalFields registry scope rest)

end

/-- A value, or the reply of the asynchronous call that will bring it. -/
inductive Evaluated where
  | value (v : Value)
  | call (reply : Reply)

/-- The value of a whole expression. An asynchronous function may be the expression itself, the
chosen branch of a ternary, or the last call of an optional chain. -/
def evalTail (registry : Registry) (scope : Scope) : Expr → Except Failure Evaluated
  | .call function arguments => do
    let args ← evalAll registry scope arguments
    if registry.isAsync function then return .call (← registry.start function args)
    else return .value (← registry.call function args)
  | .ternary condition yes no => do
    if (← eval registry scope condition).truthy then evalTail registry scope yes
    else evalTail registry scope no
  | .chain body =>
    match evalTail registry scope body with
    | .error .chainEnded => .ok (.value .null)
    | result => result
  | e => do
    return .value (← eval registry scope e)

end Expr

end LiveConfig
