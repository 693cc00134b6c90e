import LiveConfig.Proofs.Inspection.Trees
import LiveConfig.Proofs.Rewriting.Turns
import LiveConfig.Variables.Build

set_option autoImplicit false

namespace LiveConfig.Inspecting

def ofDeferred (calls : Calls) (d : Deferred Value) : Inspecting Partial :=
  match d.value? calls with
  | some value => pure (.ready value)
  | none => pure (.pending d)

def ofOutcome (calls : Calls) : Outcome Value → Inspecting Partial
  | .ready value => pure (.ready value)
  | .pending d => ofDeferred calls d

def set? : Path → Partial → Partial → Inspecting (Option Partial)
  | [], node, _ => pure (some node)
  | .index i :: path, node, .array items => do
    match items[i]? with
    | some item => return (← set? path node item).map fun changed => .array (items.set i changed)
    | none => return none
  | .key name :: path, node, .object fields => do
    match Fields.find? name fields with
    | some value =>
      return (← set? path node value).map fun changed => .object (Fields.put name changed fields)
    | none => return none
  | _ :: _, _, _ => pure none

def set (tree : Partial) (path : Path) (node : Partial) : Inspecting Partial := do
  return (← set? path node tree).getD tree

/-- Writes the result of one string into the tree. -/
def write (calls : Calls) (walk : Walk) (path : Path) : Outcome Value → Inspecting Walk
  | .ready value => do
    return { walk with tree := ← set walk.tree path (.ready value) }
  | .pending d => do
    let tree ← set walk.tree path (← ofDeferred calls d)
    return { tree, awaited := walk.awaited ++ [(path, d)] }

def emit (journal : Journal) (event : Event) : Inspecting Journal :=
  pure { journal with events := journal.events ++ [event] }

def enter (journal : Journal) (blame : Option String) (reply : Reply) :
    Inspecting (CallId × Journal) :=
  let progress := match reply with
    | .finished result => .arrived result
    | .waiting gate => .waiting gate
  pure (journal.calls.length, { journal with calls := journal.calls ++ [⟨blame, progress⟩] })

def observe (journal : Journal) (id : CallId) : Inspecting Journal :=
  match journal.calls[id]? with
  | some ⟨blame, .arrived result⟩ =>
    let observed := { journal with calls := journal.calls.set id ⟨blame, .observed result⟩ }
    match blame, result with
    | some source, .error message => emit observed (.expressionFailed source (.host message))
    | _, _ => pure observed
  | _ => pure journal

/-- A result arrives, if the call waits for one of the chosen gates. -/
def arrive (chosen : String → Bool) (result : HostResult) (call : Call) : Inspecting Call :=
  match call.progress with
  | .waiting gate =>
    if chosen gate then pure { call with progress := .arrived result } else pure call
  | _ => pure call

def takeUp (state : Walk × Journal) (place : Nat) : Inspecting (Walk × Journal) :=
  match state.1.awaited[place]? with
  | none => pure state
  | some (path, d) => do
    let journal ← d.calls.foldlM observe state.2
    match d.value? journal.calls with
    | some value =>
      let tree ← set state.1.tree path (.ready value)
      return ({ tree, awaited := state.1.awaited.eraseIdx place }, journal)
    | none => return (state.1, journal)

def pollPlace (state : Walk × Journal) (place : Path × Deferred Value) :
    Inspecting (Walk × Journal) := do
  let journal ← place.2.calls.foldlM observe state.2
  match place.2.value? journal.calls with
  | some value =>
    return ({ state.1 with tree := ← set state.1.tree place.1 (.ready value) }, journal)
  | none => return ({ state.1 with awaited := state.1.awaited ++ [place] }, journal)

def take (state : Walk × Journal) : Turn → Inspecting (Walk × Journal)
  | .start blame reply => do return (state.1, (← enter state.2 blame reply).2)
  | .release gate result => do
    let calls ← state.2.calls.mapM (arrive (· = gate) result)
    return (state.1, { state.2 with calls })
  | .rejectWaiting message => do
    let calls ← state.2.calls.mapM (arrive (fun _ => true) (.error message))
    return (state.1, { state.2 with calls })
  | .observe id => do return (state.1, ← observe state.2 id)
  | .takeUp place => takeUp state place
  | .poll => state.1.awaited.foldlM pollPlace ({ tree := state.1.tree }, state.2)

def takeAll (turns : List Turn) (state : Walk × Journal) : Inspecting (Walk × Journal) :=
  turns.foldlM take state

def add (merged : Merged) : Option Declaration → Inspecting Merged
  | none => pure merged
  | some (.positional values) => pure { merged with positional := merged.positional ++ values }
  | some (.named values) => pure { merged with named := Fields.putAll merged.named values }

def order (globals locals : Option Declaration) : Inspecting (List (Option String × Value)) := do
  let merged ← add (← add {} globals) locals
  return merged.positional.map (fun value => (none, value)) ++
    merged.named.map fun entry => (some entry.1, entry.2)

def entryScope (host : HostState) (statics : Option Environment) (soFar : Environment) :
    Inspecting Scope :=
  match soFar.tier with
  | .static => pure { host, statics := some soFar }
  | .dynamic => pure { host, statics, dynamics := some soFar }

def addEntry (soFar : Environment) (name : Option String) (built : Partial) :
    Inspecting Environment :=
  match name with
  | none => pure { soFar with positional := soFar.positional ++ [built] }
  | some name => pure { soFar with named := Fields.put name built soFar.named }

theorem ofDeferred_eq (calls : Calls) (d : Deferred Value) :
    ofDeferred calls d = pure (Partial.ofDeferred calls d) := by
  rw [ofDeferred, Partial.ofDeferred]
  cases d.value? calls <;> rfl

theorem ofOutcome_eq (calls : Calls) (o : Outcome Value) :
    ofOutcome calls o = pure (Partial.ofOutcome calls o) := by
  cases o with
  | ready value => rfl
  | pending d => exact ofDeferred_eq calls d

theorem set?_eq (path : Path) (node tree : Partial) :
    set? path node tree = pure (Partial.set? path node tree) := by
  induction path generalizing tree with
  | nil => rfl
  | cons step path ih =>
    cases step with
    | index i =>
      cases tree with
      | array items =>
        rw [set?, Partial.set?]
        cases items[i]? with
        | none => rfl
        | some item =>
          dsimp only
          rw [ih item]
          rfl
      | ready | object | pending => rfl
    | key name =>
      cases tree with
      | object fields =>
        rw [set?, Partial.set?]
        cases Fields.find? name fields with
        | none => rfl
        | some value =>
          dsimp only
          rw [ih value]
          rfl
      | ready | array | pending => rfl

theorem set_eq (tree : Partial) (path : Path) (node : Partial) :
    set tree path node = pure (tree.set path node) := by
  rw [set, set?_eq]
  rfl

theorem write_eq (calls : Calls) (walk : Walk) (path : Path) (o : Outcome Value) :
    write calls walk path o = pure (walk.write calls path o) := by
  cases o with
  | ready value =>
    rw [write, set_eq]
    rfl
  | pending d =>
    rw [write, ofDeferred_eq, pure_bind, set_eq]
    rfl

theorem enter_eq (journal : Journal) (blame : Option String) (reply : Reply) :
    enter journal blame reply = pure (journal.start blame reply) := by
  cases reply <;> rfl

theorem observe_eq (journal : Journal) (id : CallId) :
    observe journal id = pure (journal.observe id) := by
  unfold observe Journal.observe
  cases journal.calls[id]? with
  | none => rfl
  | some call =>
    obtain ⟨blame, progress⟩ := call
    cases progress with
    | waiting | observed => rfl
    | arrived result => cases blame <;> cases result <;> rfl

theorem foldlM_observe (ids : List CallId) (journal : Journal) :
    ids.foldlM observe journal = pure (journal.poll ids) := by
  rw [funext fun journal => funext (observe_eq journal), List.foldlM_pure]
  rfl

theorem mapM_release (gate : String) (result : HostResult) (calls : Calls) :
    calls.mapM (arrive (· = gate) result) = pure (calls.map (Call.release gate result)) := by
  have each (call : Call) :
      arrive (· = gate) result call = pure (call.release gate result) := by
    obtain ⟨blame, progress⟩ := call
    cases progress with
    | waiting key => by_cases same : key = gate <;> simp [arrive, Call.release, same]
    | arrived | observed => rfl
  rw [funext each, List.mapM_pure]

theorem mapM_reject (message : String) (calls : Calls) :
    calls.mapM (arrive (fun _ => true) (.error message)) =
      pure (calls.map (Call.reject message)) := by
  have each (call : Call) :
      arrive (fun _ => true) (.error message) call = pure (call.reject message) := by
    obtain ⟨blame, progress⟩ := call
    cases progress <;> rfl
  rw [funext each, List.mapM_pure]

theorem takeUp_eq (state : Walk × Journal) (place : Nat) :
    takeUp state place = pure (Walk.takeUp state place) := by
  unfold takeUp Walk.takeUp
  cases state.1.awaited[place]? with
  | none => rfl
  | some awaited =>
    dsimp only
    rw [foldlM_observe, pure_bind]
    cases awaited.2.value? (state.2.poll awaited.2.calls).calls with
    | none => rfl
    | some value =>
      dsimp only
      rw [set_eq, pure_bind]

theorem pollPlace_eq (state : Walk × Journal) (place : Path × Deferred Value) :
    pollPlace state place = pure (Walk.pollPlace state place) := by
  unfold pollPlace Walk.pollPlace
  rw [foldlM_observe, pure_bind]
  dsimp only
  cases place.2.value? (state.2.poll place.2.calls).calls with
  | none => rfl
  | some value =>
    dsimp only
    rw [set_eq, pure_bind]

theorem take_eq (state : Walk × Journal) (turn : Turn) :
    take state turn = pure (Turn.take state turn) := by
  cases turn with
  | start blame reply =>
    rw [take, enter_eq]
    rfl
  | release gate result =>
    rw [take, mapM_release]
    rfl
  | rejectWaiting message =>
    rw [take, mapM_reject]
    rfl
  | observe id =>
    rw [take, observe_eq]
    rfl
  | takeUp place => exact takeUp_eq state place
  | poll =>
    rw [take, funext fun state => funext (pollPlace_eq state), List.foldlM_pure]
    rfl

/-- Whatever turns a walk takes, nothing that arrives is looked into. -/
theorem takeAll_eq (turns : List Turn) (state : Walk × Journal) :
    takeAll turns state = pure (Turn.takeAll turns state) := by
  rw [takeAll, funext fun state => funext (take_eq state), List.foldlM_pure]
  rfl

theorem order_eq (globals locals : Option Declaration) :
    order globals locals = pure (Environment.order (Merged.merge globals locals)) := by
  have add_eq (merged : Merged) (declaration : Option Declaration) :
      add merged declaration = pure (merged.add declaration) := by
    match declaration with
    | none | some (.positional _) | some (.named _) => rfl
  rw [order, add_eq, pure_bind, add_eq]
  rfl

theorem entryScope_eq (host : HostState) (statics : Option Environment) (soFar : Environment) :
    entryScope host statics soFar = pure (Environment.entryScope host statics soFar) := by
  unfold entryScope Environment.entryScope
  cases soFar.tier <;> rfl

theorem addEntry_eq (soFar : Environment) (name : Option String) (built : Partial) :
    addEntry soFar name built = pure (match name with
      | none => soFar.push built
      | some name => soFar.insert name built) := by
  cases name <;> rfl

end LiveConfig.Inspecting
