import Mathlib
import LiveConfig.Value.Json

set_option autoImplicit false

/- The doubles of natural numbers. Up to 53 bits they are exact: the significand is the number
itself, moved up to the hidden bit, and nothing is rounded on the way there. Up to fifteen digits
the text of the double is the decimal numeral. -/

namespace LiveConfig.Number

open Float.Model (Format totalExponent)
open Float.Model.UnpackedFloat

/-- The leading bit of the significand is the hidden one. -/
structure Normal (significand : Nat) : Prop where
  hidden : 2 ^ 52 ≤ significand
  bits : significand < 2 ^ 53

namespace Normal

variable {significand : Nat} (normal : Normal significand)
include normal

theorem pos : 0 < significand :=
  Nat.lt_of_lt_of_le (Nat.two_pow_pos 52) normal.hidden

theorem log2_shifted (places : Nat) : (significand * 2 ^ places).log2 = 52 + places := by
  have nonzero : significand * 2 ^ places ≠ 0 :=
    Nat.ne_of_gt (Nat.mul_pos normal.pos (Nat.two_pow_pos places))
  rw [Nat.log2_eq_iff nonzero]
  constructor
  · rw [Nat.pow_add]
    exact Nat.mul_le_mul_right _ normal.hidden
  · rw [Nat.add_right_comm, Nat.pow_add]
    exact Nat.mul_lt_mul_of_pos_right normal.bits (Nat.two_pow_pos places)

theorem log2_eq : significand.log2 = 52 := by
  simpa using normal.log2_shifted 0

theorem target_shifted (exponent : Int) (range : -1074 ≤ exponent) (places : Nat) :
    Format.binary64.targetExponent
      (totalExponent (significand * 2 ^ places) (exponent - places)) = exponent := by
  simp only [Format.targetExponent, totalExponent, normal.log2_shifted, Format.mantissaBits,
    Format.minExponent]
  omega

end Normal

/-- Zeros that are shifted out leave nothing to round. -/
theorem shiftRight_exact (m places : Nat) :
    ExtendedMantissa.ofMantissaAndAccuracy (m * 2 ^ places) .exact >>> places =
      ExtendedMantissa.ofMantissaAndAccuracy m .exact := by
  induction places generalizing m with
  | zero => simp [ExtendedMantissa.ofMantissaAndAccuracy]; rfl
  | succ places ih =>
    show (ExtendedMantissa.ofMantissaAndAccuracy _ .exact >>> places).shiftRightOne = _
    rw [Nat.pow_succ', ← Nat.mul_assoc, ih]
    simp [ExtendedMantissa.shiftRightOne, ExtendedMantissa.ofMantissaAndAccuracy]

theorem roundWithAccuracy_of_normal {m : Nat} (normal : Normal m) (exponent : Int)
    (range : -1074 ≤ exponent) (places : Nat) :
    roundWithAccuracy Format.binary64 .positive (m * 2 ^ places) (exponent - places) .exact =
      .finite .positive m exponent normal.pos := by
  have amount : (exponent - (exponent - places)).toNat = places := by omega
  have shifted : shiftToTargetExponent Format.binary64 (m * 2 ^ places) (exponent - places)
      .exact = (ExtendedMantissa.ofMantissaAndAccuracy m .exact, exponent) := by
    rw [shiftToTargetExponent, normal.target_shifted exponent range, shiftToExponent, amount,
      shiftRight_exact]
    exact Prod.ext rfl (Int.sub_add_cancel exponent places)
  -- rounding shifts a second time, should the significand have grown by a bit; it has not
  have still : shiftToTargetExponent Format.binary64 m exponent .exact =
      (ExtendedMantissa.ofMantissaAndAccuracy m .exact, exponent) := by
    have target := normal.target_shifted exponent range 0
    rw [Nat.pow_zero, Nat.mul_one, Int.natCast_zero, Int.sub_zero] at target
    rw [shiftToTargetExponent, target, shiftToExponent, Int.sub_self]
    exact Prod.ext rfl (Int.add_zero exponent)
  have rounded : (ExtendedMantissa.ofMantissaAndAccuracy m .exact).roundedMantissa = m := rfl
  rw [roundWithAccuracy, shifted]
  simp only [rounded, still]
  exact dif_neg (Nat.ne_of_gt normal.pos)

theorem pack_of_normal {m : Nat} (normal : Normal m) (exponent : Int) (range : -1074 ≤ exponent)
    (finite : exponent ≤ 971) :
    pack Format.binary64 (.finite .positive m exponent normal.pos) =
      packComponents Format.binary64 .positive (BitVec.ofNat 11 (exponent + 1075).toNat)
        (BitVec.ofNat 52 m) := by
  have biased : exponent + Format.binary64.exponentBias +
      Format.binary64.mantissaBitsWithoutImplicit = exponent + 1075 := by
    show exponent + 1023 + 52 = _
    omega
  have small : ¬ 2 ^ Format.binary64.exponentBits ≤ (exponent + 1075).toNat + 1 := by
    show ¬ 2048 ≤ _
    omega
  simp only [pack, biased, if_neg small, normal.log2_eq]
  rfl

theorem unpackSign_positive (exponent : BitVec 11) (fraction : BitVec 52) :
    unpackSign (packComponents Format.binary64 .positive exponent fraction) = 0#1 := by
  show (0#1 ++ exponent ++ fraction).extractLsb' 63 1 = 0#1
  rw [BitVec.extractLsb'_append_eq_of_le (by decide),
    BitVec.extractLsb'_append_eq_of_le (by decide)]
  rfl

theorem unpack_pack {m : Nat} (normal : Normal m) (exponent : Int) (range : -1074 ≤ exponent)
    (finite : exponent ≤ 971) :
    unpack Format.binary64 (pack Format.binary64 (.finite .positive m exponent normal.pos)) =
      .finite .positive m exponent normal.pos := by
  have field : (BitVec.ofNat 11 (exponent + 1075).toNat).toNat = (exponent + 1075).toNat := by
    show (exponent + 1075).toNat % 2048 = _
    omega
  have notSpecial : BitVec.ofNat 11 (exponent + 1075).toNat ≠ -1#11 := by
    intro same
    have number := congrArg BitVec.toNat same
    rw [field] at number
    change (exponent + 1075).toNat = 2047 at number
    omega
  have notSubnormal : BitVec.ofNat 11 (exponent + 1075).toNat ≠ 0#11 := by
    intro same
    have number := congrArg BitVec.toNat same
    rw [field] at number
    change (exponent + 1075).toNat = 0 at number
    omega
  have significand : (1#1 ++ BitVec.ofNat 52 m).toNat = m := by
    have lower := normal.hidden
    have upper := normal.bits
    rw [BitVec.toNat_append, BitVec.toNat_ofNat, Nat.shiftLeft_eq]
    show 2 ^ 52 ||| m % 2 ^ 52 = m
    rw [Nat.or_comm, Nat.or_two_pow_eq_add_of_lt (Nat.mod_lt _ (Nat.two_pow_pos 52))]
    omega
  have unbiased : ((exponent + 1075).toNat : Int) -
      (Format.binary64.exponentBias + Format.binary64.mantissaBitsWithoutImplicit) = exponent := by
    show _ - (1023 + 52) = exponent
    omega
  rw [pack_of_normal normal exponent range finite]
  simp only [unpack, unpackMantissa_packComponents, unpackExponent_packComponents]
  rw [unpackSign_positive, if_neg notSpecial, if_neg notSubnormal]
  simp only [field, significand, unbiased]
  rfl

/-- The fields of a normal double stand one after another. -/
theorem toBits_pack {m : Nat} (normal : Normal m) (exponent : Int) (range : -1074 ≤ exponent)
    (finite : exponent ≤ 971) :
    (Float.Model.pack (.finite .positive m exponent normal.pos)).toBits.toNat =
      (exponent + 1075).toNat * 2 ^ 52 + m % 2 ^ 52 := by
  show (pack Format.binary64 _).toNat = _
  rw [pack_of_normal normal exponent range finite]
  show (0#1 ++ BitVec.ofNat 11 _ ++ BitVec.ofNat 52 m).toNat = _
  have field : (exponent + 1075).toNat % 2 ^ 11 = (exponent + 1075).toNat := by omega
  have fraction : m % 2 ^ 52 < 2 ^ 52 := Nat.mod_lt _ (Nat.two_pow_pos 52)
  simp only [BitVec.toNat_append, BitVec.toNat_ofNat, Nat.shiftLeft_eq, field, Nat.zero_mod,
    Nat.zero_mul, Nat.zero_or]
  rw [Nat.mul_comm, ← Nat.two_pow_add_eq_or_of_lt fraction]

/-- The significand of an integer of at most 53 bits: the integer moved up to the hidden bit. -/
theorem normal_of_lt {n : Nat} (positive : n ≠ 0) (small : n < 2 ^ 53) :
    Normal (n * 2 ^ (52 - n.log2)) := by
  have places : n.log2 ≤ 52 := Nat.le_of_lt_succ ((Nat.log2_lt positive).mpr small)
  have lower := Nat.mul_le_mul_right (2 ^ (52 - n.log2)) (Nat.log2_self_le positive)
  have upper := Nat.mul_lt_mul_of_pos_right (Nat.lt_log2_self (n := n))
    (Nat.two_pow_pos (52 - n.log2))
  rw [← Nat.pow_add, show n.log2 + (52 - n.log2) = 52 by omega] at lower
  rw [← Nat.pow_add, show n.log2 + 1 + (52 - n.log2) = 53 by omega] at upper
  exact ⟨lower, upper⟩

theorem round_natural {n : Nat} (positive : n ≠ 0) (small : n < 2 ^ 53) :
    Float.Model.UnpackedFloat.round Format.binary64 .positive n 0 =
      .finite .positive (n * 2 ^ (52 - n.log2)) (n.log2 - 52)
        (normal_of_lt positive small).pos := by
  have places : n.log2 ≤ 52 := Nat.le_of_lt_succ ((Nat.log2_lt positive).mpr small)
  have target : Format.binary64.targetExponent (totalExponent n 0) = n.log2 - 52 := by
    simp only [Format.targetExponent, totalExponent, Format.mantissaBits, Format.minExponent]
    omega
  have amount : (0 - ((n.log2 : Int) - 52)).toNat = 52 - n.log2 := by omega
  have moved : (0 : Int) - ((52 - n.log2 : Nat) : Int) = n.log2 - 52 := by omega
  have exact := roundWithAccuracy_of_normal (normal_of_lt positive small) (n.log2 - 52)
    (by omega) 0
  simpa only [Float.Model.UnpackedFloat.round, target, decreaseExponent, amount, moved,
    Nat.shiftLeft_eq, Nat.pow_zero, Nat.mul_one, Int.natCast_zero, Int.sub_zero] using exact

theorem toModel_ofNat {n : Nat} (positive : n ≠ 0) (small : n < 2 ^ 53) :
    (Float.ofNat n).toModel = .pack (.finite .positive (n * 2 ^ (52 - n.log2))
      (n.log2 - 52) (normal_of_lt positive small).pos) := by
  have places : n.log2 ≤ 52 := Nat.le_of_lt_succ ((Nat.log2_lt positive).mpr small)
  have normal := normal_of_lt positive small
  have word : n.toUInt64.toNat = n := by
    show n % 2 ^ 64 = n
    omega
  have order : compare (n : Int) 0 = .gt := Int.compare_eq_gt.mpr (by omega)
  have converted : Float.Model.ofUInt64 n.toUInt64 =
      .pack (.finite .positive (n * 2 ^ (52 - n.log2)) (n.log2 - 52) normal.pos) := by
    simp only [Float.Model.ofUInt64, ofUInt64, word, ofNat, ofInt,
      Float.Model.UnpackedFloat.normalize, order, Int.toNat_natCast, round_natural positive small]
  have unpacked := unpack_pack normal (n.log2 - 52) (by omega) (by omega)
  have one : (Float.Model.ofBits 4607182418800017408).unpack =
      .finite .positive (2 ^ 52) (-52) (by decide) := by rfl
  -- a numeral is its digits times a power of ten, here times one
  have product : Float.Model.mul (Float.Model.ofUInt64 n.toUInt64)
      (Float.Model.ofBits 4607182418800017408) =
      .pack (.finite .positive (n * 2 ^ (52 - n.log2)) (n.log2 - 52) normal.pos) := by
    rw [Float.Model.mul, one, converted]
    show Float.Model.pack (mul _ (unpack _ (pack _ _)) _) = _
    rw [unpacked]
    exact congrArg Float.Model.pack
      (roundWithAccuracy_of_normal normal (n.log2 - 52) (by omega) 52)
  have few : n < 2 ^ 53 ∧ 0 ≤ 22 := ⟨small, by decide⟩
  show (Float.ofScientific n false 0).toModel = _
  rw [Float.ofScientific, dif_pos few]
  exact product

/-- The significand of a normal double is told from its bits. -/
theorem ofBits_normal {m : Nat} (normal : Normal m) (exponent : Int) (range : -1074 ≤ exponent)
    (finite : exponent ≤ 971) :
    Reading.ofBits ((exponent + 1075).toNat * 2 ^ 52 + m % 2 ^ 52) =
      .finite ⟨false, m, exponent⟩ := by
  have lower := normal.hidden
  have upper := normal.bits
  have sign : ((exponent + 1075).toNat * 2 ^ 52 + m % 2 ^ 52) / 0x8000000000000000 % 2 = 0 := by
    omega
  have field : ((exponent + 1075).toNat * 2 ^ 52 + m % 2 ^ 52) / hiddenBit % 0x800 =
      (exponent + 1075).toNat := by
    rw [hiddenBit]
    omega
  have fraction : ((exponent + 1075).toNat * 2 ^ 52 + m % 2 ^ 52) % hiddenBit = m - hiddenBit := by
    rw [hiddenBit]
    omega
  have notSpecial : (exponent + 1075).toNat ≠ 2047 := by omega
  have notSubnormal : (exponent + 1075).toNat ≠ 0 := by omega
  have whole : hiddenBit + (m - hiddenBit) = m := Nat.add_sub_of_le lower
  have unbiased : ((exponent + 1075).toNat : Int) - 1075 = exponent := by omega
  simp only [Reading.ofBits, sign, field, fraction, if_neg notSpecial, if_neg notSubnormal, whole,
    unbiased]
  rfl

theorem read_ofNat {n : Nat} (positive : n ≠ 0) (small : n < 2 ^ 53) :
    read (Float.ofNat n) = .finite ⟨false, n * 2 ^ (52 - n.log2), n.log2 - 52⟩ := by
  have places : n.log2 ≤ 52 := Nat.le_of_lt_succ ((Nat.log2_lt positive).mpr small)
  have normal := normal_of_lt positive small
  have bits : (Float.ofNat n).toBits.toNat = _ :=
    (congrArg (·.toBits.toNat) (toModel_ofNat positive small)).trans
      (toBits_pack normal _ (by omega) (by omega))
  rw [read, bits, ofBits_normal normal _ (by omega) (by omega)]

theorem read_zero : read (Float.ofNat 0) = .finite ⟨false, 0, -1074⟩ := by rfl

theorem exists_read_ofNat {n : Nat} (small : n < 2 ^ 53) :
    ∃ parts : Binary, read (Float.ofNat n) = .finite parts ∧ parts.negative = false ∧
      parts.integral = true ∧ parts.whole = n := by
  by_cases zero : n = 0
  · subst zero
    exact ⟨_, read_zero, rfl, by simp [Binary.integral], by simp [Binary.whole]⟩
  · have places : n.log2 ≤ 52 := Nat.le_of_lt_succ ((Nat.log2_lt zero).mpr small)
    have unit : (-((n.log2 : Int) - 52)).toNat = 52 - n.log2 := by omega
    refine ⟨_, read_ofNat zero small, rfl, ?_, ?_⟩
    · have exact : n * 2 ^ (52 - n.log2) % powerOfTwo (52 - n.log2) = 0 := Nat.mul_mod_left n _
      simp only [Binary.integral, unit, exact, beq_self_eq_true, Bool.or_true]
    · by_cases full : n.log2 = 52
      · simp [Binary.whole, powerOfTwo, full]
      · simp only [Binary.whole, powerOfTwo]
        rw [if_neg (by omega), unit]
        exact Nat.mul_div_cancel n (Nat.two_pow_pos _)

theorem text_ofNat {n : Nat} (small : n < 1000000000000000) :
    String.ofList (text (Float.ofNat n)) = toString n := by
  obtain ⟨parts, read_eq, positive, integral, whole⟩ := exists_read_ofNat (n := n) (by omega)
  have nonnegative : ¬ (n : Int) < 0 := by omega
  simp [text, smallInteger?, read_eq, positive, integral, whole, small, integerText, minus,
    digitsOf, nonnegative]
  rfl

end LiveConfig.Number
