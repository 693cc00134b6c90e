import LiveConfig.Engine

set_option autoImplicit false

namespace LiveConfig

namespace Value

mutual

/-- The strings of a tree with the paths to them, in document order. -/
def strings (path : Path) : Value → List (Path × String)
  | .text s => [(path.reverse, s)]
  | .array items => itemStrings path 0 items
  | .object fields => fieldStrings path fields
  | _ => []

def itemStrings (path : Path) (index : Nat) : List Value → List (Path × String)
  | [] => []
  | item :: rest => strings (.index index :: path) item ++ itemStrings path (index + 1) rest

def fieldStrings (path : Path) : List (String × Value) → List (Path × String)
  | [] => []
  | (name, value) :: rest => strings (.key name :: path) value ++ fieldStrings path rest

end

end Value

/-- A tree that is being rewritten, and the places whose results are still to be written back. -/
structure Walk where
  tree : Partial
  awaited : List (Path × Deferred Value) := []

namespace Walk

/-- Writes the result of one string into the tree. -/
def write (calls : Calls) (walk : Walk) (path : Path) : Outcome Value → Walk
  | .ready value => { walk with tree := walk.tree.set path (.ready value) }
  | .pending d =>
    { tree := walk.tree.set path (.ofDeferred calls d)
      awaited := walk.awaited ++ [(path, d)] }

/-- Evaluates one string and writes its result. -/
def visit (engine : Engine) (scope : Scope) (state : Walk × Journal) (leaf : Path × String) :
    Walk × Journal :=
  let (walk, journal) := state
  let scope := { scope with output := some walk.tree }
  let (outcome, journal) := engine.evaluateTemplate scope .structural leaf.2 journal
  (walk.write journal.calls leaf.1 outcome, journal)

/-- Rewrites a tree; strings whose values are under way stay pending. -/
def run (engine : Engine) (scope : Scope) (tree : Value) (journal : Journal) : Walk × Journal :=
  (tree.strings []).foldl (visit engine scope) ({ tree := .ofValue tree }, journal)

/-- Takes up what has arrived, in document order, and writes it back. -/
def poll (walk : Walk) (journal : Journal) : Walk × Journal :=
  walk.awaited.foldl (fun (state : Walk × Journal) place =>
      let (done, journal) := state
      let journal := journal.poll place.2.calls
      match place.2.value? journal.calls with
      | some value => ({ done with tree := done.tree.set place.1 (.ready value) }, journal)
      | none => ({ done with awaited := done.awaited ++ [place] }, journal))
    ({ tree := walk.tree }, journal)

/-- Whether every result is written back. -/
def isDone (walk : Walk) : Bool :=
  walk.awaited.isEmpty

/-- The rewritten tree, deferred while a string is under way. -/
def outcome (calls : Calls) (walk : Walk) : Outcome Value :=
  if walk.isDone then .ready (walk.tree.toValue calls)
  else .pending walk.tree.deferred

end Walk

/-- Rewrites a tree as a whole. -/
def Engine.evaluateStructure (engine : Engine) (scope : Scope) (tree : Value) (journal : Journal) :
    Outcome Value × Journal :=
  let (walk, journal) := Walk.run engine scope tree journal
  (walk.outcome journal.calls, journal)

end LiveConfig
