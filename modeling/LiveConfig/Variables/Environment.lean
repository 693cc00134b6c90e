import LiveConfig.Partial
import LiveConfig.Variables.Declaration

set_option autoImplicit false

namespace LiveConfig

/-- The evaluated variables of one tier, in the order of their declaration. -/
structure Environment where
  tier : Tier
  positional : List Partial := []
  named : Fields Partial := []

namespace Environment

def find? (env : Environment) (name : String) : Option Partial :=
  Fields.find? name env.named

def size (env : Environment) : Nat :=
  env.positional.length + env.named.length

/-- All entries, those without names first. -/
def entries (env : Environment) : List Partial :=
  env.positional ++ env.named.map (·.2)

def isSettled (calls : Calls) (env : Environment) : Bool :=
  env.entries.all (Partial.isSettled calls)

/-- Entries without names under their position, counted on from `start`. -/
def numbered (calls : Calls) (start : Nat) : List Partial → List (String × Value)
  | [] => []
  | entry :: rest => (toString start, entry.toValue calls) :: numbered calls (start + 1) rest

/-- All variables as one object: entries without names under `0`, `1` and so on, then the named
ones. A name that is also a position takes the place of that position. -/
def view (calls : Calls) (env : Environment) : Value :=
  .object (Fields.putAll (Fields.ofList (numbered calls 0 env.positional))
    (Fields.mapValues (Partial.toValue calls) env.named))

/-- The line that binds one name to its entry. -/
def bindingLine (tier : Tier) (name : String) : String :=
  "var " ++ name ++ " = " ++ tier.scopeName ++ "['" ++ name ++ "'];\n"

/-- One binding line for each name, in order. -/
def initializer (env : Environment) : String :=
  String.join ((Fields.names env.named).map (bindingLine env.tier))

/-- The bindings of both tiers, static ones first. -/
def initializerOf (statics dynamics : Option Environment) : String :=
  String.join ([statics, dynamics].filterMap (·.map initializer))

def push (env : Environment) (entry : Partial) : Environment :=
  { env with positional := env.positional ++ [entry] }

def insert (env : Environment) (name : String) (entry : Partial) : Environment :=
  { env with named := Fields.put name entry env.named }

def mapEntries (f : Partial → Partial) (env : Environment) : Environment :=
  { env with
    positional := env.positional.map f
    named := Fields.mapValues f env.named }

/-- Puts the value of every settled entry in its place. -/
def resolve (calls : Calls) (env : Environment) : Environment :=
  env.mapEntries (Partial.resolve calls)

/-- The calls that the entries wait for, in order. -/
def calls (env : Environment) : List CallId :=
  env.entries.flatMap Partial.calls

/-- Every entry as the value it has under given answers. -/
def read (answers : Answers) (env : Environment) : Environment :=
  env.mapEntries fun entry => .ready (entry.read answers)

theorem mapEntries_congr (env : Environment) (f g : Partial → Partial)
    (agree : ∀ entry ∈ env.entries, f entry = g entry) : env.mapEntries f = env.mapEntries g := by
  have positional : env.positional.map f = env.positional.map g :=
    List.map_congr_left fun entry member => agree entry (List.mem_append_left _ member)
  have named : Fields.mapValues f env.named = Fields.mapValues g env.named := by
    apply List.map_congr_left
    intro entry member
    have inside : entry.2 ∈ env.entries :=
      List.mem_append_right _ (List.mem_map.mpr ⟨entry, member, rfl⟩)
    simp only [agree entry.2 inside]
  simp only [mapEntries, positional, named]

/-- The environment as it will be once every entry has its value. -/
def outcome (env : Environment) : Outcome Environment :=
  if env.calls.isEmpty then .ready env
  else .pending {
    calls := env.calls
    read := fun answers => env.read answers
    read_congr := by
      intro first second agree
      apply mapEntries_congr
      intro entry member
      refine congrArg Partial.ready (entry.read_congr first second ?_)
      intro id inside
      exact agree id (List.mem_flatMap.mpr ⟨entry, member, inside⟩) }

end Environment

end LiveConfig
