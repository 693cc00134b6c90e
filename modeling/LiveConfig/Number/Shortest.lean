import LiveConfig.Number.Binary64

set_option autoImplicit false

namespace LiveConfig.Number

/-- The number `digits · 10 ^ exponent`. -/
structure Decimal where
  digits : Nat
  exponent : Int
deriving DecidableEq, Repr

/-- Which of two equally near decimals is taken. -/
inductive Tie where
  | up
  | even
deriving DecidableEq, Repr

/-- The reals that round to one double, `low` to `high` around `middle`, counted in units of
`2 ^ exponent`; the ends belong to them when `closed`. -/
structure Neighbourhood where
  low : Nat
  middle : Nat
  high : Nat
  exponent : Int
  closed : Bool
deriving DecidableEq, Repr

/-- Half the gap to the next double on each side. Below a power of two the gap is half as wide,
except where the subnormal numbers begin. -/
def Binary.neighbourhood (parts : Binary) : Neighbourhood :=
  let narrow := parts.significand = hiddenBit ∧ -1074 < parts.exponent
  { low := 4 * parts.significand - if narrow then 1 else 2
    middle := 4 * parts.significand
    high := 4 * parts.significand + 2
    exponent := parts.exponent - 2
    closed := parts.significand % 2 == 0 }

/-- A neighbourhood measured on the grid of the multiples of `10 ^ power`: a bound `b` of it lies at
`b · scale / step`. -/
structure Grid where
  scale : Nat
  step : Nat

def Neighbourhood.grid (around : Neighbourhood) (power : Int) : Grid :=
  { scale := powerOfTwo around.exponent.toNat * powerOfTen (-power).toNat
    step := powerOfTen power.toNat * powerOfTwo (-around.exponent).toNat }

/-- Whether the grid point `point · 10 ^ power` lies in the neighbourhood. -/
def Neighbourhood.covers (around : Neighbourhood) (grid : Grid) (point : Nat) : Bool :=
  let place := point * grid.step
  if around.closed then
    decide (around.low * grid.scale ≤ place) && decide (place ≤ around.high * grid.scale)
  else
    decide (around.low * grid.scale < place) && decide (place < around.high * grid.scale)

/-- The grid point nearest to the middle, if one of its two neighbours on the grid is covered. -/
def Neighbourhood.pointOn (around : Neighbourhood) (tie : Tie) (power : Int) : Option Nat :=
  let grid := around.grid power
  let middle := around.middle * grid.scale
  let below := middle / grid.step
  match around.covers grid below, around.covers grid (below + 1) with
  | false, false => none
  | true, false => some below
  | false, true => some (below + 1)
  | true, true =>
    let toBelow := middle - below * grid.step
    let toAbove := (below + 1) * grid.step - middle
    if toBelow < toAbove then some below
    else if toAbove < toBelow then some (below + 1)
    else match tie with
      | .up => some (below + 1)
      | .even => some (if below % 2 = 0 then below else below + 1)

/-- Tries the grids from the coarsest to ever finer ones. -/
def Neighbourhood.firstPoint (around : Neighbourhood) (tie : Tie) : Nat → Int → Decimal
  | 0, power => ⟨around.middle * (around.grid power).scale / (around.grid power).step, power⟩
  | finer + 1, power =>
    match around.pointOn tie power with
    | some digits => ⟨digits, power⟩
    | none => around.firstPoint tie finer (power - 1)

/-- A power of ten just above the number. -/
def Binary.topPower (parts : Binary) : Int :=
  (parts.significand.log2 + parts.exponent + 1) * 30103 / 100000 + 1

/-- Seventeen digits always suffice, and two more powers make up for the estimate of the first. -/
def Binary.shortest (parts : Binary) (tie : Tie) : Decimal :=
  if parts.significand = 0 then ⟨0, 0⟩
  else parts.neighbourhood.firstPoint tie 20 parts.topPower

/-- The decimal digits of a natural number, most significant first. -/
def digitsOf (n : Nat) : List Char :=
  Nat.toDigits 10 n

def zeros (count : Nat) : List Char :=
  List.replicate count '0'

/-- Positional notation without an exponent; a whole number has no point. -/
def Decimal.positional (d : Decimal) : List Char :=
  let digits := digitsOf d.digits
  if 0 ≤ d.exponent then digits ++ zeros d.exponent.toNat
  else
    let places := (-d.exponent).toNat
    if places < digits.length then
      digits.take (digits.length - places) ++ '.' :: digits.drop (digits.length - places)
    else '0' :: '.' :: zeros (places - digits.length) ++ digits

/-- The exponent of the first digit. -/
def Decimal.magnitude (d : Decimal) : Int :=
  d.exponent + (digitsOf d.digits).length - 1

/-- One digit before the point, and an exponent that always shows its sign. -/
def Decimal.scientific (d : Decimal) : List Char :=
  let mantissa := match digitsOf d.digits with
    | [] => []
    | [digit] => [digit]
    | digit :: rest => digit :: '.' :: rest
  let sign := if d.magnitude < 0 then '-' else '+'
  mantissa ++ 'e' :: sign :: digitsOf d.magnitude.natAbs

end LiveConfig.Number
