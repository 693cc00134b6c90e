import LiveConfig.Proofs.Inspection.Computation
import LiveConfig.Proofs.Rewriting.Observing

set_option autoImplicit false

namespace LiveConfig.Inspecting

mutual

def strings (path : Path) : Value → Inspecting (List (Path × String))
  | .text s => pure [(path.reverse, s)]
  | .array items => itemStrings path 0 items
  | .object fields => fieldStrings path fields
  | _ => pure []

def itemStrings (path : Path) (index : Nat) : List Value → Inspecting (List (Path × String))
  | [] => pure []
  | item :: rest => do
    return (← strings (.index index :: path) item) ++ (← itemStrings path (index + 1) rest)

def fieldStrings (path : Path) : List (String × Value) → Inspecting (List (Path × String))
  | [] => pure []
  | (name, value) :: rest => do
    return (← strings (.key name :: path) value) ++ (← fieldStrings path rest)

end

mutual

def ofValue : Value → Inspecting Partial
  | .array items => do return .array (← ofItems items)
  | .object fields => do return .object (← ofFields fields)
  | value => pure (.ready value)

def ofItems : List Value → Inspecting (List Partial)
  | [] => pure []
  | item :: rest => do return (← ofValue item) :: (← ofItems rest)

def ofFields : List (String × Value) → Inspecting (List (String × Partial))
  | [] => pure []
  | (name, value) :: rest => do return (name, ← ofValue value) :: (← ofFields rest)

end

mutual

def callsOf : Partial → Inspecting (List CallId)
  | .ready _ => pure []
  | .array items => itemCalls items
  | .object fields => fieldCalls fields
  | .pending d => pure d.calls

def itemCalls : List Partial → Inspecting (List CallId)
  | [] => pure []
  | item :: rest => do return (← callsOf item) ++ (← itemCalls rest)

def fieldCalls : List (String × Partial) → Inspecting (List CallId)
  | [] => pure []
  | (_, value) :: rest => do return (← callsOf value) ++ (← fieldCalls rest)

end

/-- Whether no leaf is under way. -/
def isSettled (calls : Calls) (tree : Partial) : Inspecting Bool := do
  return calls.allObserved (← callsOf tree)

mutual

def readWith (leaf : Deferred Value → Value) : Partial → Inspecting Value
  | .ready value => pure value
  | .array items => do return .array (← readItems leaf items)
  | .object fields => do return .object (← readFields leaf fields)
  | .pending d => pure (leaf d)

def readItems (leaf : Deferred Value → Value) : List Partial → Inspecting (List Value)
  | [] => pure []
  | item :: rest => do return (← readWith leaf item) :: (← readItems leaf rest)

def readFields (leaf : Deferred Value → Value) :
    List (String × Partial) → Inspecting (List (String × Value))
  | [] => pure []
  | (name, value) :: rest => do
    return (name, ← readWith leaf value) :: (← readFields leaf rest)

end

def toValue (calls : Calls) (tree : Partial) : Inspecting Value :=
  readWith (fun d => (d.value? calls).getD .null) tree

def read (answers : Answers) (tree : Partial) : Inspecting Value :=
  readWith (fun d => d.read answers) tree

mutual

theorem strings_eq (path : Path) : ∀ v : Value, strings path v = pure (v.strings path)
  | .text _ | .null | .bool _ | .number _ => rfl
  | .array items => by rw [strings, Value.strings, itemStrings_eq path 0 items]
  | .object fields => by rw [strings, Value.strings, fieldStrings_eq path fields]

theorem itemStrings_eq (path : Path) (index : Nat) : ∀ items : List Value,
    itemStrings path index items = pure (Value.itemStrings path index items)
  | [] => by rw [itemStrings, Value.itemStrings]
  | item :: rest => by
    rw [itemStrings, Value.itemStrings, strings_eq _ item, itemStrings_eq path (index + 1) rest]
    rfl

theorem fieldStrings_eq (path : Path) : ∀ fields : List (String × Value),
    fieldStrings path fields = pure (Value.fieldStrings path fields)
  | [] => by rw [fieldStrings, Value.fieldStrings]
  | (name, value) :: rest => by
    rw [fieldStrings, Value.fieldStrings, strings_eq _ value, fieldStrings_eq path rest]
    rfl

end

mutual

theorem ofValue_eq : ∀ v : Value, ofValue v = pure (Partial.ofValue v)
  | .text _ | .null | .bool _ | .number _ => rfl
  | .array items => by
    rw [ofValue, Partial.ofValue, ofItems_eq items]
    rfl
  | .object fields => by
    rw [ofValue, Partial.ofValue, ofFields_eq fields]
    rfl

theorem ofItems_eq : ∀ items : List Value, ofItems items = pure (Partial.ofItems items)
  | [] => by rw [ofItems, Partial.ofItems]
  | item :: rest => by
    rw [ofItems, Partial.ofItems, ofValue_eq item, ofItems_eq rest]
    rfl

theorem ofFields_eq : ∀ fields : List (String × Value),
    ofFields fields = pure (Partial.ofFields fields)
  | [] => by rw [ofFields, Partial.ofFields]
  | (name, value) :: rest => by
    rw [ofFields, Partial.ofFields, ofValue_eq value, ofFields_eq rest]
    rfl

end

mutual

theorem callsOf_eq : ∀ tree : Partial, callsOf tree = pure tree.calls
  | .ready _ | .pending _ => by rw [callsOf, Partial.calls]
  | .array items => by rw [callsOf, Partial.calls, itemCalls_eq items]
  | .object fields => by rw [callsOf, Partial.calls, fieldCalls_eq fields]

theorem itemCalls_eq : ∀ items : List Partial, itemCalls items = pure (Partial.itemCalls items)
  | [] => by rw [itemCalls, Partial.itemCalls]
  | item :: rest => by
    rw [itemCalls, Partial.itemCalls, callsOf_eq item, itemCalls_eq rest]
    rfl

theorem fieldCalls_eq : ∀ fields : List (String × Partial),
    fieldCalls fields = pure (Partial.fieldCalls fields)
  | [] => by rw [fieldCalls, Partial.fieldCalls]
  | (_, value) :: rest => by
    rw [fieldCalls, Partial.fieldCalls, callsOf_eq value, fieldCalls_eq rest]
    rfl

end

theorem isSettled_eq (calls : Calls) (tree : Partial) :
    isSettled calls tree = pure (tree.isSettled calls) := by
  rw [isSettled, callsOf_eq, ← Partial.allObserved_calls]
  rfl

mutual

theorem toValue_eq (calls : Calls) : ∀ tree : Partial,
    toValue calls tree = pure (tree.toValue calls)
  | .ready _ | .pending _ => by rw [toValue, readWith, Partial.toValue]
  | .array items => by
    rw [toValue, readWith, Partial.toValue, toItems_eq calls items]
    rfl
  | .object fields => by
    rw [toValue, readWith, Partial.toValue, toFields_eq calls fields]
    rfl

theorem toItems_eq (calls : Calls) : ∀ items : List Partial,
    readItems (fun d => (d.value? calls).getD .null) items = pure (Partial.toItems calls items)
  | [] => by rw [readItems, Partial.toItems]
  | item :: rest => by
    rw [readItems, Partial.toItems, ← toValue, toValue_eq calls item, toItems_eq calls rest]
    rfl

theorem toFields_eq (calls : Calls) : ∀ fields : List (String × Partial),
    readFields (fun d => (d.value? calls).getD .null) fields = pure (Partial.toFields calls fields)
  | [] => by rw [readFields, Partial.toFields]
  | (name, value) :: rest => by
    rw [readFields, Partial.toFields, ← toValue, toValue_eq calls value, toFields_eq calls rest]
    rfl

end

mutual

theorem read_eq (answers : Answers) : ∀ tree : Partial, read answers tree = pure (tree.read answers)
  | .ready _ | .pending _ => by rw [read, readWith, Partial.read]
  | .array items => by
    rw [read, readWith, Partial.read, readItems_eq answers items]
    rfl
  | .object fields => by
    rw [read, readWith, Partial.read, readFields_eq answers fields]
    rfl

theorem readItems_eq (answers : Answers) : ∀ items : List Partial,
    readItems (fun d => d.read answers) items = pure (Partial.readItems answers items)
  | [] => by rw [readItems, Partial.readItems]
  | item :: rest => by
    rw [readItems, Partial.readItems, ← read, read_eq answers item, readItems_eq answers rest]
    rfl

theorem readFields_eq (answers : Answers) : ∀ fields : List (String × Partial),
    readFields (fun d => d.read answers) fields = pure (Partial.readFields answers fields)
  | [] => by rw [readFields, Partial.readFields]
  | (name, value) :: rest => by
    rw [readFields, Partial.readFields, ← read, read_eq answers value, readFields_eq answers rest]
    rfl

end

end LiveConfig.Inspecting
