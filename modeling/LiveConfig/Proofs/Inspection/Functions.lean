import LiveConfig.Proofs.Inspection.Values

set_option autoImplicit false

namespace LiveConfig.Inspecting

def chars (v : Value) : Inspecting (List Char) := do
  return (← toText v).toList

def textOf (text : List Char) : Inspecting Value :=
  pure (.text (String.ofList text))

def refuse {α : Type} (function : Builtin) (requirement : Requirement) : Trial α :=
  throw (.badArguments function requirement)

def one (function : Builtin) (args : List Value) (answer : Value → Trial Value) : Trial Value :=
  match args with
  | [a] => answer a
  | _ => refuse function (.exactly 1 args.length)

def two (function : Builtin) (args : List Value) (answer : Value → Value → Trial Value) :
    Trial Value :=
  match args with
  | [a, b] => answer a b
  | _ => refuse function (.exactly 2 args.length)

def three (function : Builtin) (args : List Value)
    (answer : Value → Value → Value → Trial Value) : Trial Value :=
  match args with
  | [a, b, c] => answer a b c
  | _ => refuse function (.exactly 3 args.length)

def numeric (function : Builtin) (v : Value) : Trial Float := do
  match ← number? v with
  | some x => return x
  | none => refuse function (.numeric (← kind v))

def containsIn (collection element : Value) : Trial Value :=
  match collection with
  | .text s => do return .bool (Text.contains s.toList (← chars element))
  | .array items => do
    let found ← (items.anyM fun item => loose item element : Inspecting Bool)
    return .bool found
  | .object fields => do return .bool (Fields.find? (← toText element) fields).isSome
  | _ => refuse .contains .textArrayOrObject

def fill (index : Nat) (text : List Char) : List Value → Inspecting (List Char)
  | [] => pure text
  | arg :: rest => do
    let placeholder := '\x7b' :: Number.digitsOf index ++ ['\x7d']
    fill (index + 1) (Text.replace placeholder (← chars arg) text) rest

def joinItems (collection : Value) (separator : List Char) : Trial Value :=
  match collection with
  | .array items => do
    let texts ← (items.mapM chars : Inspecting (List (List Char)))
    textOf (Text.join separator texts)
  | _ => refuse .join .arrayFirst

def joinWith (args : List Value) : Trial Value :=
  match args with
  | [collection] => joinItems collection [',']
  | [collection, separator] => do joinItems collection (← chars separator)
  | _ => refuse .join .oneOrTwo

def roundWith (args : List Value) : Trial Value :=
  match args with
  | [x] => do return .number (Number.roundTo (← numeric .round x) 0)
  | [x, places] => do
    let x ← numeric .round x
    let places ← numeric .round places
    return .number (Number.roundTo x places)
  | _ => refuse .round .oneOrTwo

def extremum (function : Builtin) (pick : Float → Float → Float) (args : List Value) :
    Trial Value := do
  let items := match args with
    | [.array items] => items
    | _ => args
  match ← items.mapM (numeric function) with
  | [] => refuse function .oneOrMore
  | first :: rest => return .number (rest.foldl pick first)

def keysOf : Value → Trial Value
  | .object fields => pure (.array ((Fields.names fields).map .text))
  | .array items => pure (.array ((List.range items.length).map .ofNat))
  | _ => refuse .keys .objectOrArray

def valuesOf : Value → Trial Value
  | .object fields => pure (.array (fields.map (·.2)))
  | .array items => pure (.array items)
  | _ => refuse .values .objectOrArray

def isAmong (args : List Value) : Trial Value :=
  match args with
  | element :: candidate :: more => do
    let found ← ((candidate :: more).anyM fun other => loose element other : Inspecting Bool)
    return .bool found
  | _ => refuse .isIn .twoOrMore

def isPresent : Value → Inspecting Bool
  | .null => pure false
  | .text s => pure (!s.isEmpty)
  | _ => pure true

def lengthOf : Value → Trial Value
  | .text s => pure (.ofNat s.length)
  | .array items => pure (.ofNat items.length)
  | .object fields => pure (.ofNat fields.length)
  | _ => refuse .length .textArrayOrObject

def builtin (function : Builtin) (args : List Value) : Trial Value :=
  match function with
  | .contains => two .contains args containsIn
  | .startsWith => two .startsWith args fun s start => do
      return .bool ((← chars start).isPrefixOf (← chars s))
  | .endsWith => two .endsWith args fun s ending => do
      return .bool ((← chars ending).isSuffixOf (← chars s))
  | .format =>
    match args with
    | template :: rest => do textOf (← fill 0 (← chars template) rest)
    | [] => refuse .format .oneOrMore
  | .join => joinWith args
  | .replace => three .replace args fun s pattern replacement => do
      textOf (Text.replace (← chars pattern) (← chars replacement) (← chars s))
  | .split => two .split args fun s delimiter => do
      let delimiter ← chars delimiter
      let pieces ← ((Text.split delimiter (← chars s)).mapM textOf : Inspecting (List Value))
      return .array pieces
  | .lower => one .lower args fun s => do textOf (Text.toLower (← chars s))
  | .upper => one .upper args fun s => do textOf (Text.toUpper (← chars s))
  | .trim => one .trim args fun s => do textOf (Text.trim (← chars s))
  | .toJson => one .toJson args fun v => do return .text (← toJson v)
  | .number => one .number args fun v => do return .number ((← number? v).getD Number.nan)
  | .string => one .string args fun v => do return .text (← toText v)
  | .round => roundWith args
  | .floor => one .floor args fun v => do return .number (Number.floor (← numeric .floor v))
  | .ceil => one .ceil args fun v => do return .number (Number.ceil (← numeric .ceil v))
  | .abs => one .abs args fun v => do return .number (← numeric .abs v).abs
  | .min => extremum .min Builtin.smaller args
  | .max => extremum .max Builtin.greater args
  | .keys => one .keys args keysOf
  | .values => one .values args valuesOf
  | .isIn => isAmong args
  | .coalesce => do
    let present ← (args.findM? isPresent : Inspecting (Option Value))
    return present.getD .null
  | .iif => three .iif args fun condition yes no => do
      return if ← truthy condition then yes else no
  | .length => one .length args lengthOf

def foldName (name : String) : Inspecting String :=
  pure (String.ofList (Text.toLower name.toList))

def isAsync (registry : Registry) (name : String) : Inspecting Bool := do
  return (Fields.find? (← foldName name) registry.async).isSome

/-- Calls a function inside an expression. -/
def call (registry : Registry) (name : String) (args : List Value) : Trial Value := do
  match Fields.find? (← foldName name) registry.sync with
  | some f =>
    match f args with
    | .ok value => return value
    | .error message => throw (.host message)
  | none =>
    if ← isAsync registry name then throw (.nestedAsync name)
    else
      match Builtin.table.lookup (← foldName name) with
      | some function => builtin function args
      | none => throw (.unknownFunction name)

def start (registry : Registry) (name : String) (args : List Value) : Trial Reply := do
  match Fields.find? (← foldName name) registry.async with
  | some f => return f args
  | none => throw (.unknownAsync name)

@[simp] theorem chars_eq (v : Value) : chars v = pure (Builtin.chars v) := by
  rw [chars, toText_eq]
  rfl

theorem of_mapM {α β : Type} (f : α → Except Failure β) (items : List α) :
    (items.mapM fun item => Trial.of (f item)) = .of (items.mapM f) := by
  induction items with
  | nil => rfl
  | cons item rest ih =>
    rw [List.mapM_cons, ih, List.mapM_cons]
    cases f item with
    | error failure => rfl
    | ok value => cases rest.mapM f <;> rfl

section

variable {function : Builtin} {args : List Value}

theorem one_eq {f : Value → Trial Value} {g : Value → Except Failure Value}
    (same : ∀ a, f a = .of (g a)) : one function args f = .of (Builtin.one function args g) := by
  match args with
  | [a] => exact same a
  | [] | _ :: _ :: _ => rfl

theorem two_eq {f : Value → Value → Trial Value} {g : Value → Value → Except Failure Value}
    (same : ∀ a b, f a b = .of (g a b)) :
    two function args f = .of (Builtin.two function args g) := by
  match args with
  | [a, b] => exact same a b
  | [] | [_] | _ :: _ :: _ :: _ => rfl

theorem three_eq {f : Value → Value → Value → Trial Value}
    {g : Value → Value → Value → Except Failure Value} (same : ∀ a b c, f a b c = .of (g a b c)) :
    three function args f = .of (Builtin.three function args g) := by
  match args with
  | [a, b, c] => exact same a b c
  | [] | [_] | [_, _] | _ :: _ :: _ :: _ :: _ => rfl

end

theorem numeric_eq (function : Builtin) (v : Value) :
    numeric function v = .of (Builtin.numeric function v) := by
  rw [numeric, number?_eq, kind_eq, Builtin.numeric]
  cases v.number? <;> rfl

theorem containsIn_eq (collection element : Value) :
    containsIn collection element = .of (Builtin.containsIn collection element) := by
  cases collection with
  | text s => rw [containsIn, chars_eq]; rfl
  | array items =>
    rw [containsIn]
    simp only [loose_eq, List.anyM_pure]
    rfl
  | object fields => rw [containsIn, toText_eq]; rfl
  | null | bool | number => rfl

theorem fill_eq (index : Nat) (text : List Char) (args : List Value) :
    fill index text args = pure (Builtin.fill index text args) := by
  induction args generalizing index text with
  | nil => rfl
  | cons arg rest ih =>
    rw [fill, chars_eq]
    exact ih _ _

theorem joinItems_eq (collection : Value) (separator : List Char) :
    joinItems collection separator = .of (Builtin.joinItems collection separator) := by
  cases collection with
  | array items =>
    have texts : items.mapM chars = pure (items.map Builtin.chars) := by
      simp only [funext chars_eq, List.mapM_pure]
    rw [joinItems, texts]
    rfl
  | null | bool | number | text | object => rfl

theorem joinWith_eq (args : List Value) : joinWith args = .of (Builtin.joinWith args) := by
  match args with
  | [collection] => exact joinItems_eq collection [',']
  | [collection, separator] =>
    rw [joinWith, chars_eq]
    exact joinItems_eq collection _
  | [] | _ :: _ :: _ :: _ => rfl

theorem roundWith_eq (args : List Value) : roundWith args = .of (Builtin.roundWith args) := by
  match args with
  | [x] =>
    rw [roundWith, numeric_eq]
    exact Trial.of_bind _ _
  | [x, places] =>
    rw [roundWith, numeric_eq, numeric_eq, Builtin.roundWith]
    cases Builtin.numeric .round x with
    | error failure => rfl
    | ok x => exact Trial.of_bind _ _
  | [] | _ :: _ :: _ :: _ => rfl

theorem extremum_eq (function : Builtin) (pick : Float → Float → Float) (args : List Value) :
    extremum function pick args = .of (Builtin.extremum function pick args) := by
  have numbers (items : List Value) :
      items.mapM (numeric function) = .of (items.mapM (Builtin.numeric function)) := by
    rw [funext (numeric_eq function), of_mapM]
  unfold extremum Builtin.extremum
  dsimp only
  rw [numbers]
  cases List.mapM (Builtin.numeric function) _ with
  | error failure => rfl
  | ok numbers => cases numbers <;> rfl

theorem isAmong_eq (args : List Value) : isAmong args = .of (Builtin.isAmong args) := by
  match args with
  | element :: candidate :: more =>
    rw [isAmong]
    simp only [loose_eq, List.anyM_pure]
    rfl
  | [] | [_] => rfl

theorem isPresent_eq (v : Value) : isPresent v = pure (Builtin.isPresent v) := by
  cases v <;> rfl

@[simp] theorem builtin_eq (function : Builtin) (args : List Value) :
    builtin function args = .of (function.apply args) := by
  cases function with
  | contains => exact two_eq containsIn_eq
  | startsWith => exact two_eq fun s start => by rw [chars_eq, chars_eq]; rfl
  | endsWith => exact two_eq fun s ending => by rw [chars_eq, chars_eq]; rfl
  | format =>
    cases args with
    | nil => rfl
    | cons template rest =>
      rw [builtin, chars_eq, Trial.lift_pure_bind, fill_eq]
      rfl
  | join => exact joinWith_eq args
  | replace => exact three_eq fun s pattern replacement => by simp only [chars_eq]; rfl
  | split =>
    refine two_eq fun s delimiter => ?_
    have values (pieces : List (List Char)) :
        pieces.mapM textOf = pure (pieces.map Builtin.textOf) := List.mapM_pure
    rw [chars_eq, chars_eq, Trial.lift_pure_bind, Trial.lift_pure_bind, values]
    rfl
  | lower | upper | trim => exact one_eq fun s => by rw [chars_eq]; rfl
  | toJson => exact one_eq fun v => by rw [toJson_eq]; rfl
  | number => exact one_eq fun v => by rw [number?_eq]; rfl
  | string => exact one_eq fun v => by rw [toText_eq]; rfl
  | round => exact roundWith_eq args
  | floor | ceil | abs => exact one_eq fun v => by rw [numeric_eq]; exact Trial.of_bind _ _
  | min => exact extremum_eq .min _ args
  | max => exact extremum_eq .max _ args
  | keys => exact one_eq fun v => by cases v <;> rfl
  | values => exact one_eq fun v => by cases v <;> rfl
  | isIn => exact isAmong_eq args
  | coalesce =>
    have present : args.findM? isPresent = pure (args.find? Builtin.isPresent) := by
      rw [funext isPresent_eq, List.findM?_pure]
    rw [builtin, present]
    rfl
  | iif => exact three_eq fun condition yes no => by rw [truthy_eq]; rfl
  | length => exact one_eq fun v => by cases v <;> rfl

@[simp] theorem isAsync_eq (registry : Registry) (name : String) :
    isAsync registry name = pure (registry.isAsync name) := rfl

@[simp] theorem call_eq (registry : Registry) (name : String) (args : List Value) :
    call registry name args = .of (registry.call name args) := by
  have folded : foldName name = pure (Builtin.foldName name) := rfl
  rw [call, Registry.call, Builtin.call, Builtin.ofName?, folded, isAsync_eq, Trial.lift_pure_bind]
  cases Fields.find? (Builtin.foldName name) registry.sync with
  | some f =>
    dsimp only
    cases f args <;> rfl
  | none =>
    dsimp only
    rw [Trial.lift_pure_bind, Trial.lift_pure_bind]
    cases registry.isAsync name with
    | true => rfl
    | false =>
      cases Builtin.table.lookup (Builtin.foldName name) with
      | none => rfl
      | some function => exact builtin_eq function args

@[simp] theorem start_eq (registry : Registry) (name : String) (args : List Value) :
    start registry name args = .of (registry.start name args) := by
  have folded : foldName name = pure (Builtin.foldName name) := rfl
  rw [start, Registry.start, folded, Trial.lift_pure_bind]
  cases Fields.find? (Builtin.foldName name) registry.async <;> rfl

end LiveConfig.Inspecting
