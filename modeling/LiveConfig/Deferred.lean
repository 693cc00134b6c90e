import LiveConfig.Journal

set_option autoImplicit false

namespace LiveConfig

/-- A result that waits for some calls, in the order in which they were started. -/
structure Deferred (α : Type) where
  calls : List CallId
  read : Answers → α
  read_congr : ∀ first second : Answers, (∀ id ∈ calls, first id = second id) →
    read first = read second

namespace Deferred

variable {α β : Type}

/-- The result of one call. -/
def ofCall (id : CallId) : Deferred HostResult where
  calls := [id]
  read answers := answers id
  read_congr _ _ agree := agree id (List.mem_singleton.mpr rfl)

def map (f : α → β) (d : Deferred α) : Deferred β where
  calls := d.calls
  read answers := f (d.read answers)
  read_congr first second agree := congrArg f (d.read_congr first second agree)

/-- Whether every call it waits for is observed. -/
def isSettled (calls : Calls) (d : Deferred α) : Bool :=
  calls.allObserved d.calls

/-- The result, once every call is observed. -/
def value? (calls : Calls) (d : Deferred α) : Option α :=
  if d.isSettled calls then some (d.read calls.answers) else none

theorem value?_eq_some_iff {calls : Calls} {d : Deferred α} {value : α} :
    d.value? calls = some value ↔ d.isSettled calls = true ∧ d.read calls.answers = value := by
  unfold value?
  cases d.isSettled calls <;> simp

/-- A result is there once its calls are observed. -/
theorem isSome_value? (calls : Calls) (d : Deferred α) :
    (d.value? calls).isSome = d.isSettled calls := by
  unfold value?
  cases d.isSettled calls <;> rfl

@[simp] theorem calls_map (f : α → β) (d : Deferred α) : (d.map f).calls = d.calls := rfl

end Deferred

/-- A result that is there at once, or deferred. -/
inductive Outcome (α : Type) where
  | ready (value : α)
  | pending (d : Deferred α)

namespace Outcome

variable {α β : Type}

def map (f : α → β) : Outcome α → Outcome β
  | .ready value => .ready (f value)
  | .pending d => .pending (d.map f)

def ready? : Outcome α → Option α
  | .ready value => some value
  | .pending _ => none

def isPending : Outcome α → Bool
  | .ready _ => false
  | .pending _ => true

/-- The calls the result waits for. -/
def calls : Outcome α → List CallId
  | .ready _ => []
  | .pending d => d.calls

/-- The result under given answers. -/
def read (answers : Answers) : Outcome α → α
  | .ready value => value
  | .pending d => d.read answers

theorem read_congr (o : Outcome α) (first second : Answers)
    (agree : ∀ id ∈ o.calls, first id = second id) : o.read first = o.read second := by
  cases o with
  | ready value => rfl
  | pending d => exact d.read_congr first second agree

/-- The result, once it is there. -/
def value? (calls : Calls) : Outcome α → Option α
  | .ready value => some value
  | .pending d => d.value? calls

theorem value?_eq_some_iff {calls : Calls} {o : Outcome α} {value : α} :
    o.value? calls = some value ↔
      calls.allObserved o.calls = true ∧ o.read calls.answers = value := by
  cases o with
  | ready there =>
    exact ⟨fun found => ⟨rfl, Option.some.inj found⟩, fun found => congrArg some found.2⟩
  | pending d => exact Deferred.value?_eq_some_iff

theorem isSome_value? (calls : Calls) (o : Outcome α) :
    (o.value? calls).isSome = calls.allObserved o.calls := by
  cases o with
  | ready value => rfl
  | pending d => exact d.isSome_value? calls

/-- All results of a list, in order. -/
def gather (outcomes : List (Outcome α)) : Deferred (List α) where
  calls := outcomes.flatMap calls
  read answers := outcomes.map (read answers)
  read_congr first second agree := by
    apply List.map_congr_left
    intro o member
    apply o.read_congr
    intro id inside
    exact agree id (List.mem_flatMap.mpr ⟨o, member, inside⟩)

/-- Waits for a list of results only if one of them is deferred. -/
def all (outcomes : List (Outcome α)) : Outcome (List α) :=
  match outcomes.mapM ready? with
  | some values => .ready values
  | none => .pending (gather outcomes)

/-- Two results together. -/
def both (first : Outcome α) (second : Outcome β) : Outcome (α × β) :=
  match first, second with
  | .ready a, .ready b => .ready (a, b)
  | first, second => .pending {
      calls := first.calls ++ second.calls
      read := fun answers => (first.read answers, second.read answers)
      read_congr := by
        intro one other agree
        rw [first.read_congr one other fun id member => agree id (List.mem_append_left _ member),
          second.read_congr one other fun id member => agree id (List.mem_append_right _ member)] }

end Outcome

end LiveConfig
