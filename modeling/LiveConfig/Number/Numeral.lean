import LiveConfig.Number.Binary64

set_option autoImplicit false

namespace LiveConfig.Number

def isDigit (c : Char) : Bool :=
  '0' ≤ c && c ≤ '9'

def digitValue (c : Char) : Nat :=
  c.toNat - '0'.toNat

/-- Decimal positional value of a list of digits. -/
def valueOf (digits : List Char) : Nat :=
  digits.foldl (fun value c => 10 * value + digitValue c) 0

theorem valueOf_append_singleton (digits : List Char) (c : Char) :
    valueOf (digits ++ [c]) = 10 * valueOf digits + digitValue c := by
  simp [valueOf]

/-- The double nearest to `digits · 10 ^ exponent`. Beyond the range of the doubles the power itself
is never formed. -/
def ofDecimal (digits : Nat) (exponent : Int) : Float :=
  let magnitude := exponent + (Nat.toDigits 10 digits).length
  if digits = 0 ∨ magnitude < -400 then 0
  else if 400 < magnitude then infinity
  else Float.ofScientific digits (decide (exponent < 0)) exponent.natAbs

/-- A point halfway between two doubles has fewer significant digits than these, so of all further
digits it only matters whether one is not zero. -/
def significantDigits : Nat := 800

/-- A natural number and an exponent that have the same nearest double as the digits and the
exponent given. Digits beyond the significant ones count as one digit, which is zero only if all of
them are. -/
def condense (digits : List Char) (exponent : Int) : Nat × Int :=
  let (kept, lost) := digits.splitAt significantDigits
  if lost.all (· == '0') then (valueOf kept, exponent + lost.length)
  else (10 * valueOf kept + 1, exponent + (lost.length - 1))

/-- A numeral of few digits is condensed to itself. -/
theorem condense_of_length_le (digits : List Char) (exponent : Int)
    (few : digits.length ≤ significantDigits) :
    condense digits exponent = (valueOf digits, exponent) := by
  simp [condense, List.splitAt_eq, List.take_of_length_le few, List.drop_of_length_le few]

/-- The double written with the given digits before and after the point, times a power of ten. -/
def ofDigits (whole fraction : List Char) (power : Int) : Float :=
  let digits := (whole ++ fraction).dropWhile (· == '0')
  let (value, exponent) := condense digits (power - fraction.length)
  ofDecimal value exponent

/-- The digits at the front of a text, and the rest of it. -/
def spanDigits (text : List Char) : List Char × List Char :=
  (text.takeWhile isDigit, text.dropWhile isDigit)

theorem spanDigits_append (text : List Char) :
    (spanDigits text).1 ++ (spanDigits text).2 = text :=
  List.takeWhile_append_dropWhile

theorem spanDigits_all (text : List Char) (c : Char) (member : c ∈ (spanDigits text).1) :
    isDigit c = true := by
  simp only [spanDigits] at member
  exact List.all_eq_true.mp List.all_takeWhile c member

def splitSign : List Char → Bool × List Char
  | '-' :: rest => (true, rest)
  | '+' :: rest => (false, rest)
  | text => (false, text)

/-- The size of an exponent. It grows no more once it has reached 65536, far beyond the doubles. -/
def exponentSize (digits : List Char) : Nat :=
  digits.foldl (fun size c => if size < 0x10000 then 10 * size + digitValue c else size) 0

/-- What follows the mantissa: nothing, or `e` and a signed run of digits. -/
def exponent? : List Char → Option Int
  | [] => some 0
  | c :: rest =>
    if c = 'e' ∨ c = 'E' then
      let (negative, digits) := splitSign rest
      if digits = [] ∨ digits.any (fun d => !isDigit d) then none
      else some (if negative then -(exponentSize digits) else exponentSize digits)
    else none

/-- An unsigned numeral made of digits; at least one digit stands in its mantissa. -/
def magnitude? (text : List Char) : Option Float :=
  let (whole, rest) := spanDigits text
  let (fraction, rest) := match rest with
    | '.' :: more => spanDigits more
    | _ => ([], rest)
  if whole = [] ∧ fraction = [] then none
  else
    (exponent? rest).map (ofDigits whole fraction)

def lowerAscii (text : List Char) : List Char :=
  text.map Char.toLower

/-- Reads a whole text as a numeral. -/
def ofNumeral? (text : List Char) : Option Float :=
  let (negative, rest) := splitSign text
  let word := String.ofList (lowerAscii rest)
  let value? :=
    if word = "inf" ∨ word = "infinity" then some infinity
    else if word = "nan" then some nan
    else magnitude? rest
  value?.map (signed negative)

end LiveConfig.Number
