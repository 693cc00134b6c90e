import LiveConfig.Number.Binary64

set_option autoImplicit false

namespace LiveConfig.Number

/-- The magnitude rounded up to an integer. -/
def Binary.wholeUp (parts : Binary) : Nat :=
  if parts.integral then parts.whole else parts.whole + 1

/-- The magnitude rounded to the nearest integer, a half going up. -/
def Binary.wholeNear (parts : Binary) : Nat :=
  if 0 ≤ parts.exponent then parts.whole
  else
    let unit := powerOfTwo (-parts.exponent).toNat
    (2 * parts.significand + unit) / (2 * unit)

/-- Replaces the magnitude of a finite double by the given integer and keeps its sign. -/
def toInteger (magnitude : Binary → Nat) (x : Float) : Float :=
  match read x with
  | .finite parts => signed parts.negative (Float.ofNat (magnitude parts))
  | .nan => x
  | .infinite _ => x

def floor : Float → Float :=
  toInteger fun parts => if parts.negative then parts.wholeUp else parts.whole

def ceil : Float → Float :=
  toInteger fun parts => if parts.negative then parts.whole else parts.wholeUp

/-- The nearest integer, a half going away from zero. -/
def round : Float → Float :=
  toInteger Binary.wholeNear

/-- The integer part of a double, without its sign when it is not finite. -/
def truncate (x : Float) : Option Int :=
  match read x with
  | .finite parts => some (if parts.negative then -parts.whole else parts.whole)
  | .nan => none
  | .infinite _ => none

/-- Both magnitudes are counted in the smaller of the two units. -/
def Binary.remainder (left right : Binary) : Binary :=
  let unit := min left.exponent right.exponent
  let dividend := left.significand * powerOfTwo (left.exponent - unit).toNat
  let divisor := right.significand * powerOfTwo (right.exponent - unit).toNat
  ⟨left.negative, dividend % divisor, unit⟩

/-- The exact remainder of the division truncated toward zero; it has the dividend's sign. -/
def remainder (x y : Float) : Float :=
  match read x, read y with
  | .finite left, .finite right =>
    if right.significand = 0 then nan else (left.remainder right).toFloat
  | .finite _, .infinite _ => x
  | _, _ => nan

theorem Binary.remainder_lt (left right : Binary) (nonzero : 0 < right.significand) :
    (left.remainder right).significand <
      right.significand *
        powerOfTwo (right.exponent - min left.exponent right.exponent).toNat := by
  simp only [Binary.remainder]
  exact Nat.mod_lt _ (Nat.mul_pos nonzero (powerOfTwo_pos _))

/-- Multiplies `accumulated` by `base ^ count`, squaring the base once per binary digit. -/
def powerOnto (accumulated base : Float) (count : Nat) : Float :=
  if count = 0 then accumulated
  else
    powerOnto (if count % 2 = 1 then accumulated * base else accumulated) (base * base) (count / 2)
termination_by count

/-- An integer power; a negative exponent inverts the positive power. -/
def power (base : Float) (exponent : Int) : Float :=
  let magnitude := powerOnto 1 base exponent.natAbs
  if exponent < 0 then 1 / magnitude else magnitude

/-- The nearest integer in the range of 32 bit integers; NaN counts as zero. -/
def clamp32 (x : Float) : Int :=
  let least := -0x80000000
  let greatest := 0x7fffffff
  match read x with
  | .nan => 0
  | .infinite negative => if negative then least else greatest
  | .finite parts =>
    let whole : Int := if parts.negative then -parts.whole else parts.whole
    max least (min greatest whole)

theorem clamp32_bounds (x : Float) : -0x80000000 ≤ clamp32 x ∧ clamp32 x ≤ 0x7fffffff := by
  unfold clamp32
  split <;> grind

/-- Rounds to a number of decimal places, a half going away from zero. -/
def roundTo (x places : Float) : Float :=
  let factor := power 10 (clamp32 places)
  round (x * factor) / factor

end LiveConfig.Number
