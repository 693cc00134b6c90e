import LiveConfig.Value

set_option autoImplicit false

namespace LiveConfig.Value

mutual

/-- Structural equality. -/
def same : Value → Value → Bool
  | .null, .null => true
  | .bool b, .bool c => b == c
  | .number x, .number y => x == y
  | .text s, .text t => s == t
  | .array items, .array others => sameItems items others
  | .object fields, .object others => fields.length == others.length && sameFields fields others
  | _, _ => false
termination_by structural value => value

def sameItems : List Value → List Value → Bool
  | [], [] => true
  | item :: rest, other :: others => item.same other && sameItems rest others
  | _, _ => false
termination_by structural items => items

/-- Every entry has an equal entry of the same name among the others. -/
def sameFields : List (String × Value) → Fields Value → Bool
  | [], _ => true
  | (name, value) :: rest, others =>
    (match Fields.find? name others with
      | some other => value.same other
      | none => false) && sameFields rest others
termination_by structural fields => fields

end

def numberEqualsText (x : Float) (s : String) : Bool :=
  match numeral? s with
  | some y => x == y
  | none => false

def boolEqualsText (b : Bool) (s : String) : Bool :=
  s == if b then "true" else "false"

mutual

/-- Loose equality. -/
def loose : Value → Value → Bool
  | .null, .null => true
  | .bool b, .bool c => b == c
  | .number x, .number y => x == y
  | .text s, .text t => s == t
  | .number x, .text s => numberEqualsText x s
  | .text s, .number x => numberEqualsText x s
  | .bool b, .text s => boolEqualsText b s
  | .text s, .bool b => boolEqualsText b s
  | .array items, .array others => looseItems items others
  | .object fields, .object others => fields.length == others.length && looseFields fields others
  | _, _ => false
termination_by structural value => value

def looseItems : List Value → List Value → Bool
  | [], [] => true
  | item :: rest, other :: others => item.loose other && looseItems rest others
  | _, _ => false
termination_by structural items => items

def looseFields : List (String × Value) → Fields Value → Bool
  | [], _ => true
  | (name, value) :: rest, others =>
    (match Fields.find? name others with
      | some other => value.loose other
      | none => false) && looseFields rest others
termination_by structural fields => fields

end

/-- Structural equality of states that may be absent. -/
def sameState : Option Value → Option Value → Bool
  | none, none => true
  | some value, some other => value.same other
  | _, _ => false

end LiveConfig.Value
