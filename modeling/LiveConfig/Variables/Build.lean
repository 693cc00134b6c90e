import LiveConfig.Walk

set_option autoImplicit false

namespace LiveConfig

namespace Environment

/-- The scope of an entry: static entries see the static ones before them, dynamic entries see all
static ones and the dynamic ones before them. -/
def entryScope (host : HostState) (statics : Option Environment) (soFar : Environment) : Scope :=
  match soFar.tier with
  | .static => { host, statics := some soFar }
  | .dynamic => { host, statics, dynamics := some soFar }

/-- A text is an expression or a template, a container is rewritten, anything else is itself. -/
def evaluateEntry (engine : Engine) (scope : Scope) (value : Value) (journal : Journal) :
    Outcome Value × Journal :=
  match value with
  | .text template => engine.evaluateTemplate scope .declaration template journal
  | .array items => engine.evaluateStructure scope (.array items) journal
  | .object fields => engine.evaluateStructure scope (.object fields) journal
  | value => (.ready value, journal)

/-- Evaluates the next entry and adds it. -/
def extend (engine : Engine) (host : HostState) (statics : Option Environment)
    (state : Environment × Journal) (entry : Option String × Value) : Environment × Journal :=
  let (soFar, journal) := state
  let scope := entryScope host statics soFar
  let (outcome, journal) := evaluateEntry engine scope entry.2 journal
  let built := Partial.ofOutcome journal.calls outcome
  match entry.1 with
  | none => (soFar.push built, journal)
  | some name => (soFar.insert name built, journal)

/-- The entries of a tier in the order of their evaluation. -/
def order (merged : Merged) : List (Option String × Value) :=
  merged.positional.map (fun value => (none, value)) ++
    merged.named.map fun (name, value) => (some name, value)

def build (engine : Engine) (host : HostState) (tier : Tier) (statics : Option Environment)
    (globals locals : Option Declaration) (journal : Journal) : Environment × Journal :=
  (order (Merged.merge globals locals)).foldl (extend engine host statics) ({ tier }, journal)

/-- Builds the static tier. -/
def buildStatic (engine : Engine) (host : HostState) (globals locals : Option Declaration)
    (journal : Journal) : Environment × Journal :=
  build engine host .static none globals locals journal

/-- Builds the dynamic tier, which needs the static one to be settled. -/
def buildDynamic? (engine : Engine) (host : HostState) (statics : Environment)
    (globals locals : Option Declaration) (journal : Journal) : Option (Environment × Journal) :=
  if statics.isSettled journal.calls then
    some (build engine host .dynamic (some statics) globals locals journal)
  else none

/-- The complaint about static variables that are still under way. -/
def staticsPendingMessage : String :=
  "dynamic variables cannot be built before static variables have settled"

end Environment

end LiveConfig
