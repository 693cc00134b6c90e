import LiveConfig.Failure
import LiveConfig.Number.Rounding
import LiveConfig.Text.Search
import LiveConfig.Value.Equality
import LiveConfig.Value.Json

set_option autoImplicit false

namespace LiveConfig.Builtin

def chars (v : Value) : List Char :=
  v.toText.toList

def textOf (text : List Char) : Value :=
  .text (String.ofList text)

def refuse {α : Type} (function : Builtin) (requirement : Requirement) : Except Failure α :=
  .error (.badArguments function requirement)

/-- A function of one argument. -/
def one (function : Builtin) (args : List Value) (answer : Value → Except Failure Value) :
    Except Failure Value :=
  match args with
  | [a] => answer a
  | _ => refuse function (.exactly 1 args.length)

/-- A function of two arguments. -/
def two (function : Builtin) (args : List Value) (answer : Value → Value → Except Failure Value) :
    Except Failure Value :=
  match args with
  | [a, b] => answer a b
  | _ => refuse function (.exactly 2 args.length)

/-- A function of three arguments. -/
def three (function : Builtin) (args : List Value)
    (answer : Value → Value → Value → Except Failure Value) : Except Failure Value :=
  match args with
  | [a, b, c] => answer a b c
  | _ => refuse function (.exactly 3 args.length)

def numeric (function : Builtin) (v : Value) : Except Failure Float :=
  match v.number? with
  | some x => .ok x
  | none => refuse function (.numeric v.kind)

def containsIn (collection element : Value) : Except Failure Value :=
  match collection with
  | .text s => .ok (.bool (Text.contains s.toList (chars element)))
  | .array items => .ok (.bool (items.any fun item => item.loose element))
  | .object fields => .ok (.bool (Fields.find? element.toText fields).isSome)
  | _ => refuse .contains .textArrayOrObject

/-- The mark that stands in a format text for the argument of the given index. -/
def placeholder (index : Nat) : List Char :=
  '\x7b' :: Number.digitsOf index ++ ['\x7d']

/-- Puts the arguments in place one after another, each into the text the earlier ones left. -/
def fill (index : Nat) (text : List Char) : List Value → List Char
  | [] => text
  | arg :: rest => fill (index + 1) (Text.replace (placeholder index) (chars arg) text) rest

def joinItems (collection : Value) (separator : List Char) : Except Failure Value :=
  match collection with
  | .array items => .ok (textOf (Text.join separator (items.map chars)))
  | _ => refuse .join .arrayFirst

def joinWith (args : List Value) : Except Failure Value :=
  match args with
  | [collection] => joinItems collection [',']
  | [collection, separator] => joinItems collection (chars separator)
  | _ => refuse .join .oneOrTwo

def roundWith (args : List Value) : Except Failure Value :=
  match args with
  | [x] => do return .number (Number.roundTo (← numeric .round x) 0)
  | [x, places] => do
    let x ← numeric .round x
    let places ← numeric .round places
    return .number (Number.roundTo x places)
  | _ => refuse .round .oneOrTwo

/-- The smaller of two numbers; NaN gives way to a number. -/
def smaller (x y : Float) : Float :=
  if x.isNaN then y else if y < x then y else x

/-- The greater of two numbers; NaN gives way to a number. -/
def greater (x y : Float) : Float :=
  if x.isNaN then y else if x < y then y else x

/-- Goes through the numbers from the left; a single array stands for its items. -/
def extremum (function : Builtin) (pick : Float → Float → Float) (args : List Value) :
    Except Failure Value := do
  let items := match args with
    | [.array items] => items
    | _ => args
  match ← items.mapM (numeric function) with
  | [] => refuse function .oneOrMore
  | first :: rest => return .number (rest.foldl pick first)

def keysOf : Value → Except Failure Value
  | .object fields => .ok (.array ((Fields.names fields).map .text))
  | .array items => .ok (.array ((List.range items.length).map .ofNat))
  | _ => refuse .keys .objectOrArray

def valuesOf : Value → Except Failure Value
  | .object fields => .ok (.array (fields.map (·.2)))
  | .array items => .ok (.array items)
  | _ => refuse .values .objectOrArray

def isAmong (args : List Value) : Except Failure Value :=
  match args with
  | element :: candidate :: more =>
    .ok (.bool ((candidate :: more).any fun other => element.loose other))
  | _ => refuse .isIn .twoOrMore

/-- Neither null nor the empty text. -/
def isPresent : Value → Bool
  | .null => false
  | .text s => !s.isEmpty
  | _ => true

def lengthOf : Value → Except Failure Value
  | .text s => .ok (.ofNat s.length)
  | .array items => .ok (.ofNat items.length)
  | .object fields => .ok (.ofNat fields.length)
  | _ => refuse .length .textArrayOrObject

/-- The answer of a built-in function. -/
def apply (function : Builtin) (args : List Value) : Except Failure Value :=
  match function with
  | .contains => two .contains args containsIn
  | .startsWith => two .startsWith args fun s start =>
      .ok (.bool ((chars start).isPrefixOf (chars s)))
  | .endsWith => two .endsWith args fun s ending =>
      .ok (.bool ((chars ending).isSuffixOf (chars s)))
  | .format =>
    match args with
    | template :: rest => .ok (textOf (fill 0 (chars template) rest))
    | [] => refuse .format .oneOrMore
  | .join => joinWith args
  | .replace => three .replace args fun s pattern replacement =>
      .ok (textOf (Text.replace (chars pattern) (chars replacement) (chars s)))
  | .split => two .split args fun s delimiter =>
      .ok (.array ((Text.split (chars delimiter) (chars s)).map textOf))
  | .lower => one .lower args fun s => .ok (textOf (Text.toLower (chars s)))
  | .upper => one .upper args fun s => .ok (textOf (Text.toUpper (chars s)))
  | .trim => one .trim args fun s => .ok (textOf (Text.trim (chars s)))
  | .toJson => one .toJson args fun v => .ok (.text v.toJson)
  | .number => one .number args fun v => .ok (.number (v.number?.getD Number.nan))
  | .string => one .string args fun v => .ok (.text v.toText)
  | .round => roundWith args
  | .floor => one .floor args fun v => return .number (Number.floor (← numeric .floor v))
  | .ceil => one .ceil args fun v => return .number (Number.ceil (← numeric .ceil v))
  | .abs => one .abs args fun v => return .number (← numeric .abs v).abs
  | .min => extremum .min smaller args
  | .max => extremum .max greater args
  | .keys => one .keys args keysOf
  | .values => one .values args valuesOf
  | .isIn => isAmong args
  | .coalesce => .ok ((args.find? isPresent).getD .null)
  | .iif => three .iif args fun condition yes no => .ok (if condition.truthy then yes else no)
  | .length => one .length args lengthOf

/-- Calls a built-in function by its name. -/
def call (name : String) (args : List Value) : Except Failure Value :=
  match ofName? name with
  | some function => function.apply args
  | none => .error (.unknownFunction name)

end LiveConfig.Builtin
