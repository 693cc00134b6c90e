import LiveConfig.Value
import LiveConfig.Yaml

set_option autoImplicit false

namespace LiveConfig

namespace Yaml

def isNullText (text : String) : Bool :=
  ["", "null", "Null", "NULL", "~"].contains text

def bool? (text : String) : Option Bool :=
  if ["true", "True", "TRUE"].contains text then some true
  else if ["false", "False", "FALSE"].contains text then some false
  else none

def digitIn? (radix : Nat) (c : Char) : Option Nat :=
  let digit? :=
    if '0' ≤ c ∧ c ≤ '9' then some (c.toNat - '0'.toNat)
    else if 'a' ≤ c ∧ c ≤ 'z' then some (c.toNat - 'a'.toNat + 10)
    else if 'A' ≤ c ∧ c ≤ 'Z' then some (c.toNat - 'A'.toNat + 10)
    else none
  digit?.filter (decide <| · < radix)

/-- The greatest integer of 128 bits. -/
def greatest : Nat := 0xffffffffffffffffffffffffffffffff

/-- The natural number that at least one digit writes. It grows no more once it is beyond 128 bits,
where no integer is. -/
def natural? (radix : Nat) (digits : List Char) : Option Nat :=
  if digits.isEmpty then none
  else (digits.mapM (digitIn? radix)).map fun values =>
    values.foldl (fun n digit => if n ≤ greatest then radix * n + digit else n) 0

/-- Digits behind a zero make no number. -/
def zeroLed : List Char → Bool
  | '0' :: c :: rest => (c :: rest).all Number.isDigit
  | _ => false

/-- An integer without a sign: hexadecimal, octal, binary or decimal. -/
def magnitude? : List Char → Option Nat
  | '0' :: 'x' :: digits => natural? 16 digits
  | '0' :: 'o' :: digits => natural? 8 digits
  | '0' :: 'b' :: digits => natural? 2 digits
  | digits => if zeroLed digits then none else natural? 10 digits

/-- An integer with its sign, true for a minus. -/
def integer? : List Char → Option (Bool × Nat)
  | '-' :: rest => (magnitude? rest).map (true, ·)
  | '+' :: rest => (magnitude? rest).map (false, ·)
  | text => (magnitude? text).map (false, ·)

/-- A number with a point or an exponent, or one that is too large for an integer. -/
def real? (text : List Char) : Option Float :=
  let (plus, bare) := match text with
    | '+' :: rest => (true, rest)
    | text => (false, text)
  let word := String.ofList bare
  if plus && (bare.head? == some '+' || bare.head? == some '-') then none
  else if [".inf", ".Inf", ".INF"].contains word then some Number.infinity
  else if !plus && ["-.inf", "-.Inf", "-.INF"].contains word then some (-Number.infinity)
  else if !plus && [".nan", ".NaN", ".NAN"].contains word then some Number.nan
  else if zeroLed (Number.splitSign text).2 then none
  else (Number.ofNumeral? bare).filter Float.isFinite

/-- What an integer reads as: a number within 64 bits, nothing within 128 bits. Beyond them it is no
integer. -/
def ofInteger? (negative : Bool) (n : Nat) : Option (Option Value) :=
  let bound := if negative then 0x8000000000000000 else 0xffffffffffffffff
  let wide := if negative then 0x80000000000000000000000000000000 else greatest
  let x := Number.signed (negative && n != 0) (Number.ofDecimal n 0)
  if n ≤ bound then some (some (.number x))
  else if n ≤ wide then some none
  else none

/-- The value of a plain scalar. Integers of more than 64 bits that fit into 128 have none. -/
def resolve? (text : String) : Option Value :=
  if isNullText text then some .null
  else
    match bool? text with
    | some b => some (.bool b)
    | none =>
      match (integer? text.toList).bind fun (negative, n) => ofInteger? negative n with
      | some value? => value?
      | none =>
        match real? text.toList with
        | some x => some (.number x)
        | none => some (.text text)

/-- The text of a key, which no other value may be written like. -/
def key? : Yaml → Option String
  | .scalar text true => (resolve? text).bind Value.text?
  | .scalar text false => some text
  | _ => none

/-- Whether nothing or a null stands here. -/
def isNull : Yaml → Bool
  | .scalar text plain => plain && isNullText text
  | _ => false

/-- The text of any scalar. -/
def scalarText? : Yaml → Option String
  | .scalar text _ => some text
  | _ => none

end Yaml

namespace Value

mutual

/-- The value of a node whose collections are nested no deeper than `room`. -/
def ofYaml? (room : Nat) : Yaml → Option Value
  | .scalar s plain => if plain then Yaml.resolve? s else some (.text s)
  | .sequence items =>
    match room with
    | 0 => none
    | room + 1 => (itemsOfYaml? room items).map .array
  | .mapping entries =>
    match room with
    | 0 => none
    | room + 1 => (fieldsOfYaml? room entries).map fun fields => .object (Fields.ofList fields)

def itemsOfYaml? (room : Nat) : List Yaml → Option (List Value)
  | [] => some []
  | item :: rest => do
    let value ← ofYaml? room item
    return value :: (← itemsOfYaml? room rest)

def fieldsOfYaml? (room : Nat) : List (Yaml × Yaml) → Option (List (String × Value))
  | [] => some []
  | (key, item) :: rest => do
    let name ← key.key?
    let value ← ofYaml? room item
    return (name, value) :: (← fieldsOfYaml? room rest)

end

end Value

end LiveConfig
