import LiveConfig.Value.Equality
import LiveConfig.Variables.Build

set_option autoImplicit false

namespace LiveConfig

namespace Change

/-- What an entity list selects. -/
inductive Selection where
  /-- Every change counts. -/
  | everything
  | entities (ids : List String)
  /-- Nothing, for a reason. -/
  | nothing (complaint : EntityComplaint)

/-- The identifier that an entry of a list gives at once. -/
def readyId? : Partial → Option String
  | .ready (.text id) => some id
  | _ => none

/-- Reads a rewritten entity list. Entries that are under way or are no texts select nothing. -/
def select : Partial → Selection
  | .array items => .entities (items.filterMap readyId?)
  | .ready (.array []) => .everything
  | .ready (.array (item :: items)) => .entities ((item :: items).filterMap Value.text?)
  | .ready value => .nothing (.notArray value.kind)
  | .object _ => .nothing (.notArray .object)
  | .pending _ => .nothing .pending

def differs (old new : HostState) (id : String) : Bool :=
  !Value.sameState (old.state? id) (new.state? id)

/-- Whether a render is called for. The scope carries the new host. Without an entity list, or with
an empty one, every change counts; a list that selects nothing is reported. -/
def isObservable (engine : Engine) (old : HostState) (scope : Scope) (entities : Option Value)
    (journal : Journal) : Bool × Journal :=
  match entities with
  | none => (true, journal)
  | some (.array []) => (true, journal)
  | some list =>
    let (walk, journal) := Walk.run engine scope list journal
    match select walk.tree with
    | .everything => (true, journal)
    | .entities ids => (ids.any (differs old scope.host), journal)
    | .nothing complaint => (false, journal.emit (.entitiesIgnored complaint))

/-- Builds the dynamic variables for the new host and compares the entities they select. -/
def detect? (engine : Engine) (old new : HostState) (statics : Environment)
    (globals locals : Option Declaration) (entities : Option Value) (journal : Journal) :
    Option (Bool × Journal) := do
  let (dynamics, journal) ← Environment.buildDynamic? engine new statics globals locals journal
  let scope := { host := new, statics := some statics, dynamics := some dynamics }
  return isObservable engine old scope entities journal

end Change

end LiveConfig
