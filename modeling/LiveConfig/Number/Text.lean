import LiveConfig.Number.Shortest

set_option autoImplicit false

namespace LiveConfig.Number

def minus (negative : Bool) (text : List Char) : List Char :=
  if negative then '-' :: text else text

/-- Integers of fewer than sixteen digits are written as such; zero has no sign. -/
def smallInteger? (x : Float) : Option Int :=
  match read x with
  | .finite parts =>
    if parts.integral && decide (parts.whole < 1000000000000000) then
      some (if parts.negative then -parts.whole else parts.whole)
    else none
  | .nan => none
  | .infinite _ => none

def integerText (n : Int) : List Char :=
  minus (decide (n < 0)) (digitsOf n.natAbs)

/-- The shortest digits that read back, in positional notation; a negative zero keeps its sign. -/
def plainText (x : Float) : List Char :=
  match read x with
  | .nan => "NaN".toList
  | .infinite negative => minus negative "inf".toList
  | .finite parts => minus parts.negative (parts.shortest .up).positional

/-- A number inside text: like `plainText`, but zero has no sign. -/
def text (x : Float) : List Char :=
  match smallInteger? x with
  | some n => integerText n
  | none => plainText x

/-- A JSON number that is not a small integer: positional from `1e-5` up to `1e16`, with `.0` after
a whole number, and scientific outside that range. -/
def Decimal.json (d : Decimal) : List Char :=
  if d.magnitude < -5 ∨ 16 ≤ d.magnitude then d.scientific
  else if 0 ≤ d.exponent then d.positional ++ ['.', '0']
  else d.positional

/-- JSON has no NaN and no infinities. -/
def json (x : Float) : List Char :=
  match smallInteger? x with
  | some n => integerText n
  | none =>
    match read x with
    | .nan => "null".toList
    | .infinite _ => "null".toList
    | .finite parts => minus parts.negative (parts.shortest .even).json

end LiveConfig.Number
