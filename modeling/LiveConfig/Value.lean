import LiveConfig.Fields
import LiveConfig.Number.Numeral
import LiveConfig.Text.Blank

set_option autoImplicit false

namespace LiveConfig

inductive Value where
  | null
  | bool (b : Bool)
  | number (x : Float)
  | text (s : String)
  | array (items : List Value)
  | object (fields : List (String × Value))
deriving Inhabited

/-- The kinds of value that messages speak of. -/
inductive Kind where
  | null
  | boolean
  | number
  | string
  | array
  | object
deriving DecidableEq, Repr

def Kind.name : Kind → String
  | .null => "null"
  | .boolean => "boolean"
  | .number => "number"
  | .string => "string"
  | .array => "array"
  | .object => "object"

namespace Value

def kind : Value → Kind
  | .null => .null
  | .bool _ => .boolean
  | .number _ => .number
  | .text _ => .string
  | .array _ => .array
  | .object _ => .object

def isNull : Value → Bool
  | .null => true
  | _ => false

/-- Null, false, zero, NaN and the empty text do not hold; everything else does. -/
def truthy : Value → Bool
  | .null => false
  | .bool b => b
  | .number x => !(x == 0) && !x.isNaN
  | .text s => !s.isEmpty
  | .array _ => true
  | .object _ => true

def text? : Value → Option String
  | .text s => some s
  | _ => none

def array? : Value → Option (List Value)
  | .array items => some items
  | _ => none

def object? : Value → Option (Fields Value)
  | .object fields => some fields
  | _ => none

/-- A text counts as a number when it is a numeral between white space. -/
def numeral? (s : String) : Option Float :=
  Number.ofNumeral? (Text.trim s.toList)

/-- Booleans count as one and zero, texts by their numeral. -/
def number? : Value → Option Float
  | .number x => some x
  | .bool b => some (if b then 1 else 0)
  | .text s => numeral? s
  | .null => none
  | .array _ => none
  | .object _ => none

def ofNat (n : Nat) : Value :=
  .number (Float.ofNat n)

def emptyObject : Value :=
  .object []

/-- The value under a name of an object, null when the name is absent. -/
def field (fields : Fields Value) (name : String) : Value :=
  (Fields.find? name fields).getD .null

end Value

end LiveConfig
