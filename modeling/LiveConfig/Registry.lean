import LiveConfig.Builtin.Apply

set_option autoImplicit false

namespace LiveConfig

/-- The answer to a call, or the message of its failure. -/
abbrev HostResult := Except String Value

/-- What an asynchronous function answers at once: a result that is taken up later, or the gate
behind which the result will arrive. -/
inductive Reply where
  | finished (result : HostResult)
  | waiting (gate : String)

inductive Registration where
  | sync (f : List Value → HostResult)
  | async (f : List Value → Reply)

/-- The registered functions under the folded form of their names, in a table for each kind. -/
structure Registry where
  sync : Fields (List Value → HostResult) := []
  async : Fields (List Value → Reply) := []
  /-- No name stands in both tables. -/
  apart : ∀ key ∈ Fields.names sync, key ∉ Fields.names async := by simp [Fields.names]

namespace Registry

/-- Enters a function in the table of its kind and takes its name out of the other. -/
def register (registry : Registry) (name : String) (registration : Registration) : Registry :=
  let key := Builtin.foldName name
  match registration with
  | .sync f => {
      sync := Fields.put key f registry.sync
      async := Fields.erase key registry.async
      apart := by
        intro other entered remains
        obtain ⟨listed, differ⟩ := Fields.mem_names_erase.mp remains
        rcases Fields.mem_names_put.mp entered with before | same
        · exact registry.apart other before listed
        · exact differ same }
  | .async f => {
      sync := Fields.erase key registry.sync
      async := Fields.put key f registry.async
      apart := by
        intro other remains entered
        obtain ⟨listed, differ⟩ := Fields.mem_names_erase.mp remains
        rcases Fields.mem_names_put.mp entered with before | same
        · exact registry.apart other listed before
        · exact differ same }

def isAsync (registry : Registry) (name : String) : Bool :=
  (Fields.find? (Builtin.foldName name) registry.async).isSome

/-- Calls a function inside an expression. -/
def call (registry : Registry) (name : String) (args : List Value) : Except Failure Value :=
  match Fields.find? (Builtin.foldName name) registry.sync with
  | some f => (f args).mapError .host
  | none => if registry.isAsync name then .error (.nestedAsync name) else Builtin.call name args

/-- Starts an asynchronous function. -/
def start (registry : Registry) (name : String) (args : List Value) : Except Failure Reply :=
  match Fields.find? (Builtin.foldName name) registry.async with
  | some f => .ok (f args)
  | none => .error (.unknownAsync name)

/-- The function that a name stands for. -/
def find? (registry : Registry) (name : String) : Option Registration :=
  match Fields.find? (Builtin.foldName name) registry.sync with
  | some f => some (.sync f)
  | none => (Fields.find? (Builtin.foldName name) registry.async).map .async

theorem find?_eq_async_iff {registry : Registry} {name : String} {f : List Value → Reply} :
    registry.find? name = some (.async f) ↔
      Fields.find? (Builtin.foldName name) registry.async = some f := by
  unfold find?
  cases found : Fields.find? (Builtin.foldName name) registry.sync with
  | none => simp
  | some g =>
    have listed : Builtin.foldName name ∈ Fields.names registry.sync :=
      Decidable.not_not.mp fun absent =>
        nomatch found.symm.trans ((Fields.find?_eq_none_iff _ _).mpr absent)
    rw [(Fields.find?_eq_none_iff _ _).mpr (registry.apart _ listed)]
    simp

theorem isAsync_eq_true_iff {registry : Registry} {name : String} :
    registry.isAsync name = true ↔ ∃ f, registry.find? name = some (.async f) := by
  simp only [isAsync, Option.isSome_iff_exists, find?_eq_async_iff]

theorem isAsync_eq (registry : Registry) (name : String) :
    registry.isAsync name =
      match registry.find? name with
      | some (.async _) => true
      | _ => false := by
  split
  · next f found => exact isAsync_eq_true_iff.mpr ⟨f, found⟩
  · next other =>
    refine Bool.eq_false_iff.mpr fun async => ?_
    obtain ⟨f, found⟩ := isAsync_eq_true_iff.mp async
    exact other f found

theorem call_eq (registry : Registry) (name : String) (args : List Value) :
    registry.call name args =
      match registry.find? name with
      | some (.sync f) => (f args).mapError .host
      | some (.async _) => .error (.nestedAsync name)
      | none => Builtin.call name args := by
  unfold call find? isAsync
  cases Fields.find? (Builtin.foldName name) registry.sync with
  | some f => rfl
  | none => cases Fields.find? (Builtin.foldName name) registry.async <;> rfl

theorem start_eq (registry : Registry) (name : String) (args : List Value) :
    registry.start name args =
      match registry.find? name with
      | some (.async f) => .ok (f args)
      | _ => .error (.unknownAsync name) := by
  unfold start
  cases found : Fields.find? (Builtin.foldName name) registry.async with
  | some f => rw [find?_eq_async_iff.mpr found]
  | none =>
    cases known : registry.find? name with
    | none => rfl
    | some registration =>
      cases registration with
      | sync f => rfl
      | async f => exact nomatch found.symm.trans (find?_eq_async_iff.mp known)

theorem find?_register_self (registry : Registry) (name other : String)
    (registration : Registration) (same : Builtin.foldName other = Builtin.foldName name) :
    (registry.register name registration).find? other = some registration := by
  cases registration with
  | sync f => simp [find?, register, same, Fields.find?_put_self]
  | async f => simp [find?, register, same, Fields.find?_put_self, Fields.find?_erase_self]

theorem find?_register_other (registry : Registry) (name other : String)
    (registration : Registration) (differ : Builtin.foldName other ≠ Builtin.foldName name) :
    (registry.register name registration).find? other = registry.find? other := by
  cases registration with
  | sync f =>
    simp only [find?, register, Fields.find?_put_other _ _ _ _ differ,
      Fields.find?_erase_other _ differ]
  | async f =>
    simp only [find?, register, Fields.find?_put_other _ _ _ _ differ,
      Fields.find?_erase_other _ differ]

end Registry

end LiveConfig
