import LiveConfig.Proofs.Inspection.Computation

set_option autoImplicit false

/- The operations on values once more, free to look into texts at every step. What works on
characters, numbers, lists and fields alone is taken as it is, and so is the quoting of a text: none
of that imports the parser or the splitting of templates. -/

namespace LiveConfig.Inspecting

def kind : Value → Inspecting Kind
  | .null => pure .null
  | .bool _ => pure .boolean
  | .number _ => pure .number
  | .text _ => pure .string
  | .array _ => pure .array
  | .object _ => pure .object

def isNull : Value → Inspecting Bool
  | .null => pure true
  | _ => pure false

def truthy : Value → Inspecting Bool
  | .null => pure false
  | .bool b => pure b
  | .number x => pure (!(x == 0) && !x.isNaN)
  | .text s => pure (!s.isEmpty)
  | .array _ => pure true
  | .object _ => pure true

def numeral? (s : String) : Inspecting (Option Float) :=
  pure (Number.ofNumeral? (Text.trim s.toList))

def number? : Value → Inspecting (Option Float)
  | .number x => pure (some x)
  | .bool b => pure (some (if b then 1 else 0))
  | .text s => numeral? s
  | .null => pure none
  | .array _ => pure none
  | .object _ => pure none

def operand? : Value → Inspecting (Option Float)
  | .null => pure (some 0)
  | v => number? v

mutual

def toJson : Value → Inspecting String
  | .null => pure "null"
  | .bool b => pure (if b then "true" else "false")
  | .number x => pure (String.ofList (Number.json x))
  | .text s => pure (Json.quote s)
  | .array [] => pure "[]"
  | .array (item :: rest) => do
    return "[" ++ (← toJson item) ++ (← jsonItems rest) ++ "]"
  | .object [] => pure "\x7b\x7d"
  | .object ((name, value) :: rest) => do
    return "\x7b" ++ Json.quote name ++ ":" ++ (← toJson value) ++ (← jsonFields rest) ++ "\x7d"

def jsonItems : List Value → Inspecting String
  | [] => pure ""
  | item :: rest => do return "," ++ (← toJson item) ++ (← jsonItems rest)

def jsonFields : List (String × Value) → Inspecting String
  | [] => pure ""
  | (name, value) :: rest => do
    return "," ++ Json.quote name ++ ":" ++ (← toJson value) ++ (← jsonFields rest)

end

def toText : Value → Inspecting String
  | .null => pure "null"
  | .bool b => pure (if b then "true" else "false")
  | .number x => pure (String.ofList (Number.text x))
  | .text s => pure s
  | .array items => toJson (.array items)
  | .object fields => toJson (.object fields)

def numberEqualsText (x : Float) (s : String) : Inspecting Bool := do
  match ← numeral? s with
  | some y => return x == y
  | none => return false

def boolEqualsText (b : Bool) (s : String) : Inspecting Bool :=
  pure (s == if b then "true" else "false")

mutual

def loose : Value → Value → Inspecting Bool
  | .null, .null => pure true
  | .bool b, .bool c => pure (b == c)
  | .number x, .number y => pure (x == y)
  | .text s, .text t => pure (s == t)
  | .number x, .text s => numberEqualsText x s
  | .text s, .number x => numberEqualsText x s
  | .bool b, .text s => boolEqualsText b s
  | .text s, .bool b => boolEqualsText b s
  | .array items, .array others => looseItems items others
  | .object fields, .object others => do
    return fields.length == others.length && (← looseFields fields others)
  | _, _ => pure false
termination_by structural value => value

def looseItems : List Value → List Value → Inspecting Bool
  | [], [] => pure true
  | item :: rest, other :: others => do
    return (← loose item other) && (← looseItems rest others)
  | _, _ => pure false
termination_by structural items => items

def looseFields : List (String × Value) → Fields Value → Inspecting Bool
  | [], _ => pure true
  | (name, value) :: rest, others => do
    match Fields.find? name others with
    | some other => return (← loose value other) && (← looseFields rest others)
    | none => return false
termination_by structural fields => fields

end

/-- The entry of a container under an index. -/
def entry (container index : Value) : Trial Value :=
  match container, index with
  | .array items, .number x => pure (((Value.place? x).bind (items[·]?)).getD .null)
  | .array items, .text key =>
    if key = "length" then pure (.ofNat items.length) else throw (.notIndexable .array .string)
  | .object fields, .text key => pure ((Fields.find? key fields).getD .null)
  | .object fields, .number x => do
    return (Fields.find? (← toText (.number x)) fields).getD .null
  | .text s, .number x =>
    match (Value.place? x).bind (s.toList[·]?) with
    | some c => pure (.text c.toString)
    | none => pure .null
  | .null, index => do throw (.entryOfNull (← toText index))
  | container, index => do throw (.notIndexable (← kind container) (← kind index))

/-- A property of a value. -/
def property (container : Value) (name : String) : Trial Value :=
  match container with
  | .object fields => pure ((Fields.find? name fields).getD .null)
  | .array items =>
    if name = "length" then pure (.ofNat items.length) else throw (.noProperty name .array)
  | .text s =>
    if name = "length" then pure (.ofNat s.length) else throw (.noProperty name .string)
  | .null => throw (.propertyOfNull name)
  | other => do throw (.noProperty name (← kind other))

def unary (op : UnaryOp) (operand : Value) : Trial Value :=
  match op with
  | .not => do return .bool (!(← truthy operand))
  | .negate => do
    match ← operand? operand with
    | some x => return .number (-x)
    | none => throw (.notNegatable (← kind operand))

def onNumbers (op : Arithmetic) (left right : Value) : Trial Value := do
  match ← operand? left, ← operand? right with
  | some x, some y => return .number (op.apply x y)
  | _, _ => throw (.notNumeric op (← kind left) (← kind right))

def joins : Value → Inspecting Bool
  | .text _ => pure true
  | .array _ => pure true
  | .object _ => pure true
  | _ => pure false

def arithmetic (op : Arithmetic) (left right : Value) : Trial Value :=
  match op with
  | .add => do
    if (← joins left) || (← joins right) then
      return .text ((← toText left) ++ (← toText right))
    else onNumbers .add left right
  | op => onNumbers op left right

def compareNumbers (op : Comparison) (left right : Value) : Trial Value := do
  match ← operand? left, ← operand? right with
  | some x, some y => return .bool ((Comparison.orderNumbers? x y).any op.holds)
  | _, _ => throw (.notComparable op (← kind left) (← kind right))

def comparison (op : Comparison) (left right : Value) : Trial Value :=
  match left, right with
  | .text s, .text t => pure (.bool (op.holds (Comparison.orderTexts s t)))
  | left, right => compareNumbers op left right

/-- Whether the left operand of a logical operator is already its value. -/
def decided (op : Logical) (left : Value) : Inspecting Bool :=
  match op with
  | .and => do return !(← truthy left)
  | .or => truthy left
  | .nullish => do return !(← isNull left)

@[simp] theorem kind_eq (v : Value) : kind v = pure v.kind := by
  cases v <;> rfl

@[simp] theorem isNull_eq (v : Value) : isNull v = pure v.isNull := by
  cases v <;> rfl

@[simp] theorem truthy_eq (v : Value) : truthy v = pure v.truthy := by
  cases v <;> rfl

@[simp] theorem numeral?_eq (s : String) : numeral? s = pure (Value.numeral? s) := rfl

@[simp] theorem number?_eq (v : Value) : number? v = pure v.number? := by
  cases v <;> rfl

@[simp] theorem operand?_eq (v : Value) : operand? v = pure v.operand? := by
  cases v <;> rfl

mutual

theorem toJson_eq : ∀ v : Value, toJson v = pure v.toJson
  | .null | .bool _ | .number _ | .text _ | .array [] | .object [] => by
    rw [toJson, Value.toJson]
  | .array (item :: rest) => by
    rw [toJson, Value.toJson, toJson_eq item, jsonItems_eq rest]
    rfl
  | .object ((name, value) :: rest) => by
    rw [toJson, Value.toJson, toJson_eq value, jsonFields_eq rest]
    rfl

theorem jsonItems_eq : ∀ items : List Value, jsonItems items = pure (Value.jsonItems items)
  | [] => by rw [jsonItems, Value.jsonItems]
  | item :: rest => by
    rw [jsonItems, Value.jsonItems, toJson_eq item, jsonItems_eq rest]
    rfl

theorem jsonFields_eq : ∀ fields : List (String × Value),
    jsonFields fields = pure (Value.jsonFields fields)
  | [] => by rw [jsonFields, Value.jsonFields]
  | (name, value) :: rest => by
    rw [jsonFields, Value.jsonFields, toJson_eq value, jsonFields_eq rest]
    rfl

end

attribute [simp] toJson_eq

@[simp] theorem toText_eq (v : Value) : toText v = pure v.toText := by
  cases v with
  | array items => exact toJson_eq (.array items)
  | object fields => exact toJson_eq (.object fields)
  | null | bool | number | text => rfl

theorem numberEqualsText_eq (x : Float) (s : String) :
    numberEqualsText x s = pure (Value.numberEqualsText x s) := by
  rw [numberEqualsText, Value.numberEqualsText, numeral?_eq, pure_bind]
  cases Value.numeral? s <;> rfl

mutual

theorem loose_eq : ∀ v w : Value, loose v w = pure (v.loose w)
  | .array items, .array others => by rw [loose, Value.loose, looseItems_eq items others]
  | .object fields, .object others => by
    rw [loose, Value.loose, looseFields_eq fields others]
    rfl
  | .number x, .text s | .text s, .number x => by
    rw [loose, Value.loose, numberEqualsText_eq]
  | .null, w => by cases w <;> rfl
  | .bool _, w => by cases w <;> rfl
  | .number _, .null | .number _, .bool _ | .number _, .number _ | .number _, .array _
  | .number _, .object _ => rfl
  | .text _, .null | .text _, .bool _ | .text _, .text _ | .text _, .array _
  | .text _, .object _ => rfl
  | .array _, .null | .array _, .bool _ | .array _, .number _ | .array _, .text _
  | .array _, .object _ => rfl
  | .object _, .null | .object _, .bool _ | .object _, .number _ | .object _, .text _
  | .object _, .array _ => rfl
termination_by structural v => v

theorem looseItems_eq : ∀ items others : List Value,
    looseItems items others = pure (Value.looseItems items others)
  | [], others => by cases others <;> rfl
  | item :: rest, [] => rfl
  | item :: rest, other :: others => by
    rw [looseItems, Value.looseItems, loose_eq item other, looseItems_eq rest others]
    rfl
termination_by structural items => items

theorem looseFields_eq : ∀ (fields : List (String × Value)) (others : Fields Value),
    looseFields fields others = pure (Value.looseFields fields others)
  | [], others => rfl
  | (name, value) :: rest, others => by
    rw [looseFields, Value.looseFields]
    cases Fields.find? name others with
    | none => rfl
    | some other =>
      rw [looseFields_eq rest others]
      show loose value other >>= _ = _
      rw [loose_eq value other]
      rfl
termination_by structural fields => fields

end

attribute [simp] loose_eq

@[simp] theorem entry_eq (container index : Value) :
    entry container index = .of (container.entry index) := by
  cases container with
  | null => rw [entry, toText_eq]; rfl
  | text s =>
    cases index with
    | number x =>
      rw [entry, Value.entry]
      cases (Value.place? x).bind (s.toList[·]?) <;> rfl
    | null | bool | text | array | object => rfl
  | array items =>
    cases index with
    | text key => exact Trial.of_ite (key = "length") (.ok _) (.error _)
    | null | bool | number | array | object => rfl
  | bool | number | object => cases index <;> rfl

@[simp] theorem property_eq (container : Value) (name : String) :
    property container name = .of (container.property name) := by
  cases container with
  | array items => exact Trial.of_ite (name = "length") (.ok _) (.error _)
  | text s => exact Trial.of_ite (name = "length") (.ok _) (.error _)
  | null | bool | number | object => rfl

@[simp] theorem unary_eq (op : UnaryOp) (operand : Value) :
    unary op operand = .of (op.apply operand) := by
  cases op with
  | not =>
    rw [unary, truthy_eq]
    rfl
  | negate =>
    rw [unary, operand?_eq, kind_eq, UnaryOp.apply, Value.negate]
    cases operand.operand? <;> rfl

theorem onNumbers_eq (op : Arithmetic) (left right : Value) :
    onNumbers op left right = .of (op.onNumbers left right) := by
  rw [onNumbers, operand?_eq, operand?_eq, kind_eq, kind_eq, Arithmetic.onNumbers]
  cases left.operand? <;> cases right.operand? <;> rfl

theorem joins_eq (v : Value) : joins v = pure (Arithmetic.joins v) := by
  cases v <;> rfl

@[simp] theorem arithmetic_eq (op : Arithmetic) (left right : Value) :
    arithmetic op left right = .of (op.onValues left right) := by
  cases op with
  | add =>
    rw [arithmetic, joins_eq, joins_eq, toText_eq, toText_eq, onNumbers_eq]
    exact Trial.of_ite _ (.ok _) _
  | subtract | multiply | divide | modulo => exact onNumbers_eq _ left right

theorem compareNumbers_eq (op : Comparison) (left right : Value)
    (mixed : ∀ s t, left = .text s → right ≠ .text t) :
    compareNumbers op left right = .of (op.onValues left right) := by
  rw [compareNumbers, operand?_eq, operand?_eq, kind_eq, kind_eq, Comparison.onValues]
  · cases left.operand? <;> cases right.operand? <;> rfl
  · exact fun s t first second => mixed s t first second

@[simp] theorem comparison_eq (op : Comparison) (left right : Value) :
    comparison op left right = .of (op.onValues left right) := by
  unfold comparison
  split
  · rfl
  · next mixed => exact compareNumbers_eq op left right mixed

@[simp] theorem decided_eq (op : Logical) (left : Value) :
    decided op left = pure (op.decided left) := by
  cases op with
  | and => rw [decided, truthy_eq]; rfl
  | or => exact truthy_eq left
  | nullish => rw [decided, isNull_eq]; rfl

end LiveConfig.Inspecting
