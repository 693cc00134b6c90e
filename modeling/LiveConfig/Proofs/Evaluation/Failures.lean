import LiveConfig.Evaluate
import LiveConfig.Proofs.Failing

set_option autoImplicit false

namespace LiveConfig

namespace Builtin

/-- The failure names the function and what its arguments have to be. -/
def Blames (function : Builtin) (failure : Failure) : Prop :=
  ∃ requirement, failure = .badArguments function requirement

theorem failsWith_refuse {α : Type} (function : Builtin) (requirement : Requirement) :
    FailsWith function.Blames (refuse function requirement : Except Failure α) :=
  failsWith_error ⟨requirement, rfl⟩

section

variable {function : Builtin}

theorem failsWith_one {answer : Value → Except Failure Value}
    (each : ∀ a, FailsWith function.Blames (answer a)) (args : List Value) :
    FailsWith function.Blames (one function args answer) := by
  unfold one
  split
  · exact each _
  · exact failsWith_refuse _ _

theorem failsWith_two {answer : Value → Value → Except Failure Value}
    (each : ∀ a b, FailsWith function.Blames (answer a b)) (args : List Value) :
    FailsWith function.Blames (two function args answer) := by
  unfold two
  split
  · exact each _ _
  · exact failsWith_refuse _ _

theorem failsWith_three {answer : Value → Value → Value → Except Failure Value}
    (each : ∀ a b c, FailsWith function.Blames (answer a b c)) (args : List Value) :
    FailsWith function.Blames (three function args answer) := by
  unfold three
  split
  · exact each _ _ _
  · exact failsWith_refuse _ _

theorem failsWith_numeric (function : Builtin) (v : Value) :
    FailsWith function.Blames (numeric function v) := by
  unfold numeric
  split
  · exact failsWith_ok _ _
  · exact failsWith_refuse _ _

theorem failsWith_extremum (function : Builtin) (pick : Float → Float → Float)
    (args : List Value) : FailsWith function.Blames (extremum function pick args) := by
  unfold extremum
  refine (failsWith_mapM (failsWith_numeric function) _).bind fun numbers _ => ?_
  split
  · exact failsWith_refuse _ _
  · exact failsWith_ok _ _

end

theorem failsWith_containsIn (collection element : Value) :
    FailsWith Builtin.contains.Blames (containsIn collection element) := by
  unfold containsIn
  split
  · exact failsWith_ok _ _
  · exact failsWith_ok _ _
  · exact failsWith_ok _ _
  · exact failsWith_refuse _ _

theorem failsWith_joinItems (collection : Value) (separator : List Char) :
    FailsWith Builtin.join.Blames (joinItems collection separator) := by
  unfold joinItems
  split
  · exact failsWith_ok _ _
  · exact failsWith_refuse _ _

theorem failsWith_joinWith (args : List Value) : FailsWith Builtin.join.Blames (joinWith args) := by
  unfold joinWith
  split
  · exact failsWith_joinItems _ _
  · exact failsWith_joinItems _ _
  · exact failsWith_refuse _ _

theorem failsWith_roundWith (args : List Value) :
    FailsWith Builtin.round.Blames (roundWith args) := by
  unfold roundWith
  split
  · exact (failsWith_numeric _ _).bind fun _ _ => failsWith_ok _ _
  · refine (failsWith_numeric _ _).bind fun _ _ => ?_
    exact (failsWith_numeric _ _).bind fun _ _ => failsWith_ok _ _
  · exact failsWith_refuse _ _

theorem failsWith_keysOf (v : Value) : FailsWith Builtin.keys.Blames (keysOf v) := by
  unfold keysOf
  split
  · exact failsWith_ok _ _
  · exact failsWith_ok _ _
  · exact failsWith_refuse _ _

theorem failsWith_valuesOf (v : Value) : FailsWith Builtin.values.Blames (valuesOf v) := by
  unfold valuesOf
  split
  · exact failsWith_ok _ _
  · exact failsWith_ok _ _
  · exact failsWith_refuse _ _

theorem failsWith_isAmong (args : List Value) : FailsWith Builtin.isIn.Blames (isAmong args) := by
  unfold isAmong
  split
  · exact failsWith_ok _ _
  · exact failsWith_refuse _ _

theorem failsWith_lengthOf (v : Value) : FailsWith Builtin.length.Blames (lengthOf v) := by
  unfold lengthOf
  split
  · exact failsWith_ok _ _
  · exact failsWith_ok _ _
  · exact failsWith_ok _ _
  · exact failsWith_refuse _ _

theorem failsWith_apply (function : Builtin) (args : List Value) :
    FailsWith function.Blames (apply function args) := by
  cases function with
  | contains => exact failsWith_two failsWith_containsIn args
  | startsWith => exact failsWith_two (fun _ _ => failsWith_ok _ _) args
  | endsWith => exact failsWith_two (fun _ _ => failsWith_ok _ _) args
  | format =>
    cases args with
    | nil => exact failsWith_refuse _ _
    | cons template rest => exact failsWith_ok _ _
  | join => exact failsWith_joinWith args
  | replace => exact failsWith_three (fun _ _ _ => failsWith_ok _ _) args
  | split => exact failsWith_two (fun _ _ => failsWith_ok _ _) args
  | lower => exact failsWith_one (fun _ => failsWith_ok _ _) args
  | upper => exact failsWith_one (fun _ => failsWith_ok _ _) args
  | trim => exact failsWith_one (fun _ => failsWith_ok _ _) args
  | toJson => exact failsWith_one (fun _ => failsWith_ok _ _) args
  | number => exact failsWith_one (fun _ => failsWith_ok _ _) args
  | string => exact failsWith_one (fun _ => failsWith_ok _ _) args
  | round => exact failsWith_roundWith args
  | floor =>
    exact failsWith_one (fun v => (failsWith_numeric _ v).bind fun _ _ => failsWith_ok _ _) args
  | ceil =>
    exact failsWith_one (fun v => (failsWith_numeric _ v).bind fun _ _ => failsWith_ok _ _) args
  | abs =>
    exact failsWith_one (fun v => (failsWith_numeric _ v).bind fun _ _ => failsWith_ok _ _) args
  | min => exact failsWith_extremum _ _ args
  | max => exact failsWith_extremum _ _ args
  | keys => exact failsWith_one failsWith_keysOf args
  | values => exact failsWith_one failsWith_valuesOf args
  | isIn => exact failsWith_isAmong args
  | coalesce => exact failsWith_ok _ _
  | iif => exact failsWith_three (fun _ _ _ => failsWith_ok _ _) args
  | length => exact failsWith_one failsWith_lengthOf args

end Builtin

/-- A failure that is reported; the end of a chain is none. -/
def Failure.Real (failure : Failure) : Prop :=
  failure ≠ .chainEnded

theorem failsWith_call (registry : Registry) (name : String) (args : List Value) :
    FailsWith Failure.Real (registry.call name args) := by
  rw [Registry.call_eq]
  split
  · next f _ =>
    cases f args with
    | ok v => exact failsWith_ok _ _
    | error message => exact failsWith_error nofun
  · exact failsWith_error nofun
  · unfold Builtin.call
    split
    · refine (Builtin.failsWith_apply _ args).imp ?_
      rintro _ ⟨requirement, rfl⟩
      exact nofun
    · exact failsWith_error nofun

theorem failsWith_start (registry : Registry) (name : String) (args : List Value) :
    FailsWith Failure.Real (registry.start name args) := by
  rw [Registry.start_eq]
  split
  · exact failsWith_ok _ _
  · exact failsWith_error nofun

theorem failsWith_lookup (scope : Scope) (name : String) :
    FailsWith Failure.Real (scope.lookup name) := by
  unfold Scope.lookup
  split
  · split
    · exact failsWith_ok _ _
    · exact failsWith_error nofun
  · unfold Scope.builtinName
    repeat' split
    all_goals first | exact failsWith_ok _ _ | exact failsWith_error nofun

theorem failsWith_entry (container index : Value) :
    FailsWith Failure.Real (container.entry index) := by
  unfold Value.entry
  repeat' split
  all_goals first | exact failsWith_ok _ _ | exact failsWith_error nofun

theorem failsWith_property (container : Value) (name : String) :
    FailsWith Failure.Real (container.property name) := by
  unfold Value.property
  repeat' split
  all_goals first | exact failsWith_ok _ _ | exact failsWith_error nofun

theorem failsWith_unary (op : UnaryOp) (operand : Value) :
    FailsWith Failure.Real (op.apply operand) := by
  cases op with
  | not => exact failsWith_ok _ _
  | negate =>
    unfold UnaryOp.apply Value.negate
    dsimp only
    split
    · exact failsWith_ok _ _
    · exact failsWith_error nofun

theorem failsWith_onNumbers (op : Arithmetic) (left right : Value) :
    FailsWith Failure.Real (op.onNumbers left right) := by
  unfold Arithmetic.onNumbers
  split
  · exact failsWith_ok _ _
  · exact failsWith_error nofun

theorem failsWith_arithmetic (op : Arithmetic) (left right : Value) :
    FailsWith Failure.Real (op.onValues left right) := by
  unfold Arithmetic.onValues
  split
  · split
    · exact failsWith_ok _ _
    · exact failsWith_onNumbers _ _ _
  · exact failsWith_onNumbers _ _ _

theorem failsWith_comparison (op : Comparison) (left right : Value) :
    FailsWith Failure.Real (op.onValues left right) := by
  unfold Comparison.onValues
  split
  · exact failsWith_ok _ _
  · split
    · exact failsWith_ok _ _
    · exact failsWith_error nofun

end LiveConfig
