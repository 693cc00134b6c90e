import LiveConfig.Fields

set_option autoImplicit false

namespace LiveConfig.Command

/-- One argument by its form. -/
inductive Argument where
  /-- An option, maybe with a value behind an equals sign. -/
  | long (name : String) (value : Option String)
  | short (letters : List Char)
  /-- Everything after it is no option. -/
  | escape
  | plain (text : String)

def Argument.ofText (text : String) : Argument :=
  match text.toList with
  | ['-', '-'] => .escape
  | '-' :: '-' :: rest =>
    let name := String.ofList (rest.takeWhile (· != '='))
    match rest.dropWhile (· != '=') with
    | [] => .long name none
    | _ :: value => .long name (some (String.ofList value))
  | '-' :: c :: rest => .short (c :: rest)
  | _ => .plain text

/-- What an option takes. -/
inductive Shape where
  | flag
  /-- A text that is not empty. -/
  | file
  | text
deriving DecidableEq, Repr

/-- Why the arguments ask for nothing that can be done. -/
inductive Stop where
  | help
  | version
  | misuse
deriving DecidableEq, Repr

/-- The options that may stand at one place. -/
structure Options where
  shapes : Fields Shape
  /-- Whether the version may be asked for. -/
  versioned : Bool := false

namespace Options

/-- Single letters ask for help or the version; the first one decides. -/
def short (options : Options) : List Char → Stop
  | 'h' :: _ => .help
  | 'V' :: _ => if options.versioned then .version else .misuse
  | _ => .misuse

/-- Options without a shape of their own. -/
def asked (options : Options) (name : String) (value : Option String) : Stop :=
  if name = "help" ∧ value = none then .help
  else if name = "version" ∧ value = none ∧ options.versioned = true then .version
  else .misuse

def accepts (shape : Shape) (value : String) : Bool :=
  shape != .file || !value.isEmpty

/-- Adds a value; no option comes twice. -/
def give (given : Fields String) (name : String) (shape : Shape) (value : String) :
    Except Stop (Fields String) :=
  if (Fields.find? name given).isSome || !accepts shape value then .error .misuse
  else .ok (Fields.put name value given)

/-- Reads options up to the first argument that is none, and gives them with what is left. -/
def read (options : Options) (given : Fields String) :
    List String → Except Stop (Fields String × List String)
  | [] => .ok (given, [])
  | arg :: rest =>
    match Argument.ofText arg with
    | .plain _ => .ok (given, arg :: rest)
    | .escape => if rest.isEmpty then .ok (given, []) else .error .misuse
    | .short letters => .error (options.short letters)
    | .long name value =>
      match Fields.find? name options.shapes with
      | none => .error (options.asked name value)
      | some .flag =>
        if value.isSome then .error .misuse
        else do
          let given ← give given name .flag ""
          options.read given rest
      | some shape =>
        match value, rest with
        | some value, rest => do
          let given ← give given name shape value
          options.read given rest
        | none, next :: rest =>
          match Argument.ofText next with
          | .plain value => do
            let given ← give given name shape value
            options.read given rest
          | _ => .error .misuse
        | none, [] => .error .misuse

end Options

/-- The files every task reads besides the host states. -/
structure Sources where
  config : String
  globals : Option String := none
  engine : Option String := none

inductive Invocation where
  | render (sources : Sources) (states : String) (compact : Bool)
  | check (sources : Sources) (old new : String)

/-- What help is asked about. -/
inductive Topic where
  | program
  | render
  | check
  | help
deriving DecidableEq, Repr

/-- What the arguments ask for. -/
inductive Request where
  | perform (invocation : Invocation)
  | help (topic : Topic)
  | version
  | misuse

def logLevel : String × Shape := ("log-level", .text)

def programOptions : Options :=
  { shapes := [logLevel], versioned := true }

def renderOptions : Options :=
  { shapes := [("config", .file), ("states", .file), ("globals", .file), ("engine", .file),
      ("compact", .flag), logLevel] }

def checkOptions : Options :=
  { shapes := [("config", .file), ("old", .file), ("new", .file), ("globals", .file),
      ("engine", .file), logLevel] }

namespace Invocation

def sources? (given : Fields String) : Option Sources :=
  (Fields.find? "config" given).map fun config =>
    { config, globals := Fields.find? "globals" given, engine := Fields.find? "engine" given }

def renderOf? (given : Fields String) : Option Invocation := do
  let sources ← sources? given
  let states ← Fields.find? "states" given
  return .render sources states (Fields.find? "compact" given).isSome

def checkOf? (given : Fields String) : Option Invocation := do
  let sources ← sources? given
  let old ← Fields.find? "old" given
  let new ← Fields.find? "new" given
  return .check sources old new

end Invocation

namespace Request

def ofStop (topic : Topic) : Stop → Request
  | .help => .help topic
  | .version => .version
  | .misuse => .misuse

/-- Reads the arguments of one task, which are options only. -/
def ofTask (topic : Topic) (options : Options) (invocation? : Fields String → Option Invocation)
    (args : List String) : Request :=
  match options.read [] args with
  | .ok (given, []) => (invocation? given).elim .misuse .perform
  | .ok (_, _ :: _) => .misuse
  | .error stop => ofStop topic stop

/-- Help on a task that is named. -/
def ofHelp : List String → Request
  | [] => .help .program
  | ["render"] => .help .render
  | ["check"] => .help .check
  | ["help"] => .help .help
  | _ => .misuse

def ofArguments (args : List String) : Request :=
  match programOptions.read [] args with
  | .ok (_, "render" :: rest) => ofTask .render renderOptions Invocation.renderOf? rest
  | .ok (_, "check" :: rest) => ofTask .check checkOptions Invocation.checkOf? rest
  | .ok (_, "help" :: rest) => ofHelp rest
  | .ok _ => .misuse
  | .error stop => ofStop .program stop

end Request

end LiveConfig.Command
