import LiveConfig.Deferred

set_option autoImplicit false

/- Trees whose leaves may still be under way. Containers that were opened can be changed leaf by
leaf; what a leaf reads as depends on the calls observed so far, so every copy of a tree sees a
result as soon as it is there. -/

namespace LiveConfig

/-- One step of a path from the root of a tree. -/
inductive Step where
  | index (i : Nat)
  | key (name : String)
deriving DecidableEq, Repr

abbrev Path := List Step

inductive Partial where
  | ready (value : Value)
  | array (items : List Partial)
  | object (fields : List (String × Partial))
  | pending (d : Deferred Value)

namespace Partial

mutual

/-- Opens every container of a value. -/
def ofValue : Value → Partial
  | .array items => .array (ofItems items)
  | .object fields => .object (ofFields fields)
  | value => .ready value

def ofItems : List Value → List Partial
  | [] => []
  | item :: rest => ofValue item :: ofItems rest

def ofFields : List (String × Value) → List (String × Partial)
  | [] => []
  | (name, value) :: rest => (name, ofValue value) :: ofFields rest

end

/-- A deferred value that is settled already is not pending any more. -/
def ofDeferred (calls : Calls) (d : Deferred Value) : Partial :=
  match d.value? calls with
  | some value => .ready value
  | none => .pending d

def ofOutcome (calls : Calls) : Outcome Value → Partial
  | .ready value => .ready value
  | .pending d => ofDeferred calls d

mutual

/-- The value as far as it is known; what is still under way reads as null. -/
def toValue (calls : Calls) : Partial → Value
  | .ready value => value
  | .array items => .array (toItems calls items)
  | .object fields => .object (toFields calls fields)
  | .pending d => (d.value? calls).getD .null

def toItems (calls : Calls) : List Partial → List Value
  | [] => []
  | item :: rest => toValue calls item :: toItems calls rest

def toFields (calls : Calls) : List (String × Partial) → List (String × Value)
  | [] => []
  | (name, value) :: rest => (name, toValue calls value) :: toFields calls rest

end

mutual

/-- Whether no leaf is under way. -/
def isSettled (calls : Calls) : Partial → Bool
  | .ready _ => true
  | .array items => itemsSettled calls items
  | .object fields => fieldsSettled calls fields
  | .pending d => d.isSettled calls

def itemsSettled (calls : Calls) : List Partial → Bool
  | [] => true
  | item :: rest => isSettled calls item && itemsSettled calls rest

def fieldsSettled (calls : Calls) : List (String × Partial) → Bool
  | [] => true
  | (_, value) :: rest => isSettled calls value && fieldsSettled calls rest

end

mutual

/-- Puts the value of every settled leaf in its place. -/
def resolve (calls : Calls) : Partial → Partial
  | .ready value => .ready value
  | .array items => .array (resolveItems calls items)
  | .object fields => .object (resolveFields calls fields)
  | .pending d => ofDeferred calls d

def resolveItems (calls : Calls) : List Partial → List Partial
  | [] => []
  | item :: rest => resolve calls item :: resolveItems calls rest

def resolveFields (calls : Calls) : List (String × Partial) → List (String × Partial)
  | [] => []
  | (name, value) :: rest => (name, resolve calls value) :: resolveFields calls rest

end

mutual

/-- The calls that the leaves wait for, in document order. -/
def calls : Partial → List CallId
  | .ready _ => []
  | .array items => itemCalls items
  | .object fields => fieldCalls fields
  | .pending d => d.calls

def itemCalls : List Partial → List CallId
  | [] => []
  | item :: rest => calls item ++ itemCalls rest

def fieldCalls : List (String × Partial) → List CallId
  | [] => []
  | (_, value) :: rest => calls value ++ fieldCalls rest

end

mutual

/-- The value under given answers. -/
def read (answers : Answers) : Partial → Value
  | .ready value => value
  | .array items => .array (readItems answers items)
  | .object fields => .object (readFields answers fields)
  | .pending d => d.read answers

def readItems (answers : Answers) : List Partial → List Value
  | [] => []
  | item :: rest => read answers item :: readItems answers rest

def readFields (answers : Answers) : List (String × Partial) → List (String × Value)
  | [] => []
  | (name, value) :: rest => (name, read answers value) :: readFields answers rest

end

mutual

theorem read_congr (first second : Answers) : ∀ tree : Partial,
    (∀ id ∈ tree.calls, first id = second id) → tree.read first = tree.read second
  | .ready _, _ => rfl
  | .array items, agree => congrArg Value.array (readItems_congr first second items agree)
  | .object fields, agree => congrArg Value.object (readFields_congr first second fields agree)
  | .pending d, agree => d.read_congr first second agree

theorem readItems_congr (first second : Answers) : ∀ items : List Partial,
    (∀ id ∈ itemCalls items, first id = second id) →
      readItems first items = readItems second items
  | [], _ => rfl
  | item :: rest, agree => by
    simp only [readItems]
    rw [read_congr first second item fun id member => agree id (List.mem_append_left _ member),
      readItems_congr first second rest fun id member => agree id (List.mem_append_right _ member)]

theorem readFields_congr (first second : Answers) : ∀ fields : List (String × Partial),
    (∀ id ∈ fieldCalls fields, first id = second id) →
      readFields first fields = readFields second fields
  | [], _ => rfl
  | (name, value) :: rest, agree => by
    simp only [readFields]
    rw [read_congr first second value fun id member => agree id (List.mem_append_left _ member),
      readFields_congr first second rest fun id member => agree id (List.mem_append_right _ member)]

end

/-- The whole tree as one deferred value. -/
def deferred (tree : Partial) : Deferred Value where
  calls := tree.calls
  read answers := tree.read answers
  read_congr first second agree := tree.read_congr first second agree

/-- The node at a path. -/
def get? : Path → Partial → Option Partial
  | [], tree => some tree
  | .index i :: path, .array items => items[i]?.bind (get? path)
  | .key name :: path, .object fields => (Fields.find? name fields).bind (get? path)
  | _ :: _, _ => none

/-- Replaces the node at a path, if there is one. -/
def set? : Path → Partial → Partial → Option Partial
  | [], node, _ => some node
  | .index i :: path, node, .array items =>
    (items[i]?.bind (set? path node)).map fun changed => .array (items.set i changed)
  | .key name :: path, node, .object fields =>
    ((Fields.find? name fields).bind (set? path node)).map fun changed =>
      .object (Fields.put name changed fields)
  | _ :: _, _, _ => none

/-- Replaces the node at a path; without such a node the tree stays as it is. -/
def set (tree : Partial) (path : Path) (node : Partial) : Partial :=
  (set? path node tree).getD tree

end Partial

end LiveConfig
