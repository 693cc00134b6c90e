import LiveConfig.Event
import LiveConfig.Registry

set_option autoImplicit false

/- The journal of a run: every call of an asynchronous function that was started, how far it has
come, and the events reported so far. A call first waits for its gate, then its result has
arrived, and at last the result is observed; an observed result never changes. -/

namespace LiveConfig

/-- How far a call has come. -/
inductive Progress where
  | waiting (gate : String)
  | arrived (result : HostResult)
  | observed (result : HostResult)

def Progress.ofReply : Reply → Progress
  | .finished result => .arrived result
  | .waiting gate => .waiting gate

/-- A started call, with the expression to blame should it fail. -/
structure Call where
  blame : Option String
  progress : Progress

/-- The place of a call among the started ones. -/
abbrev CallId := Nat

/-- The started calls, oldest first. -/
abbrev Calls := List Call

/-- What each call resulted in. -/
abbrev Answers := CallId → HostResult

namespace Calls

/-- The result of a call, once it is observed. -/
def result? (calls : Calls) (id : CallId) : Option HostResult :=
  match calls[id]? with
  | some ⟨_, .observed result⟩ => some result
  | _ => none

/-- Calls without an observed result read as null. -/
def answers (calls : Calls) : Answers :=
  fun id => (calls.result? id).getD (.ok .null)

def isObserved (calls : Calls) (id : CallId) : Bool :=
  (calls.result? id).isSome

def allObserved (calls : Calls) (ids : List CallId) : Bool :=
  ids.all calls.isObserved

end Calls

/-- The result is there, if the call waited for this gate. -/
def Call.release (gate : String) (result : HostResult) (call : Call) : Call :=
  match call.progress with
  | .waiting key => if key = gate then { call with progress := .arrived result } else call
  | _ => call

/-- A call that still waits fails. -/
def Call.reject (message : String) (call : Call) : Call :=
  match call.progress with
  | .waiting _ => { call with progress := .arrived (.error message) }
  | _ => call

structure Journal where
  calls : Calls := []
  events : List Event := []

namespace Journal

def emit (journal : Journal) (event : Event) : Journal :=
  { journal with events := journal.events ++ [event] }

/-- Enters a call and gives it its place. -/
def start (journal : Journal) (blame : Option String) (reply : Reply) : CallId × Journal :=
  (journal.calls.length,
    { journal with calls := journal.calls ++ [⟨blame, .ofReply reply⟩] })

/-- Gives a result to every call that waits for a gate. -/
def release (journal : Journal) (gate : String) (result : HostResult) : Journal :=
  { journal with calls := journal.calls.map (Call.release gate result) }

/-- Lets every call fail that still waits for a gate. -/
def rejectWaiting (journal : Journal) (message : String) : Journal :=
  { journal with calls := journal.calls.map (Call.reject message) }

/-- Takes up the result of a call if it has arrived. A failure is reported at this moment. -/
def observe (journal : Journal) (id : CallId) : Journal :=
  match journal.calls[id]? with
  | some ⟨blame, .arrived result⟩ =>
    let observed := { journal with calls := journal.calls.set id ⟨blame, .observed result⟩ }
    match blame, result with
    | some source, .error message => observed.emit (.expressionFailed source (.host message))
    | _, _ => observed
  | _ => journal

/-- Takes up the results of some calls in order. -/
def poll (journal : Journal) (ids : List CallId) : Journal :=
  ids.foldl observe journal

/-- The journal with no events yet. -/
def clearEvents (journal : Journal) : Journal :=
  { journal with events := [] }

@[simp] theorem poll_nil (journal : Journal) : journal.poll [] = journal := rfl

@[simp] theorem poll_cons (journal : Journal) (id : CallId) (ids : List CallId) :
    journal.poll (id :: ids) = (journal.observe id).poll ids := rfl

theorem poll_append (journal : Journal) (first second : List CallId) :
    journal.poll (first ++ second) = (journal.poll first).poll second := by
  simp [poll]

/-- Observing a call keeps every result that was observed before. -/
theorem result?_observe (journal : Journal) (id other : CallId) (result : HostResult)
    (observed : journal.calls.result? other = some result) :
    (journal.observe id).calls.result? other = some result := by
  unfold observe
  split
  · next blame arrived found =>
    have differ : other ≠ id := by
      rintro rfl
      simp [Calls.result?, found] at observed
    have kept : Calls.result? (journal.calls.set id ⟨blame, .observed arrived⟩) other =
        some result := by
      simpa only [Calls.result?, List.getElem?_set_ne (Ne.symm differ)] using observed
    split
    · exact kept
    · exact kept
  · exact observed

theorem result?_poll (journal : Journal) (ids : List CallId) (other : CallId)
    (result : HostResult) (observed : journal.calls.result? other = some result) :
    (journal.poll ids).calls.result? other = some result := by
  induction ids generalizing journal with
  | nil => exact observed
  | cons id ids ih => exact ih _ (result?_observe journal id other result observed)

end Journal

end LiveConfig
