set_option autoImplicit false

namespace LiveConfig.Number

def powerOfTwo (n : Nat) : Nat :=
  Nat.pow 2 n

def powerOfTen (n : Nat) : Nat :=
  Nat.pow 10 n

theorem powerOfTwo_pos (n : Nat) : 0 < powerOfTwo n :=
  Nat.two_pow_pos n

/-- The weight of the leading bit that normal numbers do not write. -/
def hiddenBit : Nat := 0x10000000000000

/-- A finite double: `significand · 2 ^ exponent`, negative or not. -/
structure Binary where
  negative : Bool
  significand : Nat
  exponent : Int
deriving DecidableEq, Repr

/-- What a double stands for. -/
inductive Reading where
  | nan
  | infinite (negative : Bool)
  | finite (parts : Binary)
deriving DecidableEq, Repr

/-- The sign, exponent and fraction fields read as a number. A zero exponent field marks the
subnormal numbers, which have no hidden leading bit. -/
def Reading.ofBits (bits : Nat) : Reading :=
  let negative := bits / 0x8000000000000000 % 2 == 1
  let field : Nat := bits / hiddenBit % 0x800
  let fraction := bits % hiddenBit
  if field = 2047 then
    if fraction = 0 then .infinite negative else .nan
  else if field = 0 then
    .finite ⟨negative, fraction, -1074⟩
  else
    .finite ⟨negative, hiddenBit + fraction, (field : Int) - 1075⟩

def read (x : Float) : Reading :=
  Reading.ofBits x.toBits.toNat

def nan : Float := 0.0 / 0.0

def infinity : Float := 1.0 / 0.0

def signed (negative : Bool) (magnitude : Float) : Float :=
  if negative then -magnitude else magnitude

/-- The power of two with the given exponent, which lies in the range of the doubles. -/
def twoTo (exponent : Int) : Float :=
  if exponent < -1022 then Float.ofBits (UInt64.ofNat (powerOfTwo (exponent + 1074).toNat))
  else Float.ofBits (UInt64.ofNat ((exponent + 1023).toNat * hiddenBit))

/-- The double with the given parts; exact whenever the parts come from a double. -/
def Binary.toFloat (parts : Binary) : Float :=
  signed parts.negative (Float.ofNat parts.significand * twoTo parts.exponent)

/-- The integer part of the magnitude. -/
def Binary.whole (parts : Binary) : Nat :=
  if 0 ≤ parts.exponent then parts.significand * powerOfTwo parts.exponent.toNat
  else parts.significand / powerOfTwo (-parts.exponent).toNat

/-- Whether the number is an integer. -/
def Binary.integral (parts : Binary) : Bool :=
  decide (0 ≤ parts.exponent) || parts.significand % powerOfTwo (-parts.exponent).toNat == 0

theorem Binary.integral_of_nonneg (parts : Binary) (large : 0 ≤ parts.exponent) :
    parts.integral = true := by
  simp [Binary.integral, large]

/-- An integral number is its own integer part. -/
theorem Binary.whole_mul_of_integral (parts : Binary) (small : parts.exponent < 0)
    (exact : parts.integral = true) :
    parts.whole * powerOfTwo (-parts.exponent).toNat = parts.significand := by
  have notLarge : ¬ 0 ≤ parts.exponent := by omega
  simp only [Binary.integral, notLarge, decide_false, Bool.false_or, beq_iff_eq] at exact
  simp only [Binary.whole, notLarge, if_false]
  exact Nat.div_mul_cancel (Nat.dvd_of_mod_eq_zero exact)

end LiveConfig.Number
