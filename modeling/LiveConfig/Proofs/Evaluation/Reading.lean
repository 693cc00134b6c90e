import LiveConfig.Proofs.Evaluation.Agreement

set_option autoImplicit false

namespace LiveConfig

variable {calls calls' : Calls}

theorem answers_congr (same : calls.result? = calls'.result?) : calls.answers = calls'.answers := by
  funext id
  simp only [Calls.answers, same]

theorem isSettled_congr {α : Type} (same : calls.result? = calls'.result?) (d : Deferred α) :
    d.isSettled calls = d.isSettled calls' := by
  have observed : calls.isObserved = calls'.isObserved := by
    funext id
    simp only [Calls.isObserved, same]
  simp only [Deferred.isSettled, Calls.allObserved, observed]

theorem value?_congr {α : Type} (same : calls.result? = calls'.result?) (d : Deferred α) :
    d.value? calls = d.value? calls' := by
  simp only [Deferred.value?, isSettled_congr same, answers_congr same]

namespace Partial

mutual

theorem toValue_congr (same : calls.result? = calls'.result?) : ∀ tree : Partial,
    tree.toValue calls = tree.toValue calls'
  | .ready _ => rfl
  | .array items => congrArg Value.array (toItems_congr same items)
  | .object fields => congrArg Value.object (toFields_congr same fields)
  | .pending d => by rw [toValue, toValue, value?_congr same d]

theorem toItems_congr (same : calls.result? = calls'.result?) : ∀ items : List Partial,
    toItems calls items = toItems calls' items
  | [] => rfl
  | item :: rest => by rw [toItems, toItems, toValue_congr same item, toItems_congr same rest]

theorem toFields_congr (same : calls.result? = calls'.result?) :
    ∀ fields : List (String × Partial), toFields calls fields = toFields calls' fields
  | [] => rfl
  | (_, value) :: rest => by
    rw [toFields, toFields, toValue_congr same value, toFields_congr same rest]

end

mutual

theorem settled_congr (same : calls.result? = calls'.result?) : ∀ tree : Partial,
    tree.isSettled calls = tree.isSettled calls'
  | .ready _ => rfl
  | .array items => itemsSettled_congr same items
  | .object fields => fieldsSettled_congr same fields
  | .pending d => isSettled_congr same d

theorem itemsSettled_congr (same : calls.result? = calls'.result?) : ∀ items : List Partial,
    itemsSettled calls items = itemsSettled calls' items
  | [] => rfl
  | item :: rest => by
    rw [itemsSettled, itemsSettled, settled_congr same item, itemsSettled_congr same rest]

theorem fieldsSettled_congr (same : calls.result? = calls'.result?) :
    ∀ fields : List (String × Partial), fieldsSettled calls fields = fieldsSettled calls' fields
  | [] => rfl
  | (_, value) :: rest => by
    rw [fieldsSettled, fieldsSettled, settled_congr same value, fieldsSettled_congr same rest]

end

end Partial

theorem view_congr (same : calls.result? = calls'.result?) (env : Environment) :
    env.view calls = env.view calls' := by
  have numbered (start : Nat) (entries : List Partial) :
      Environment.numbered calls start entries = Environment.numbered calls' start entries := by
    induction entries generalizing start with
    | nil => rfl
    | cons entry rest ih =>
      rw [Environment.numbered, Environment.numbered, ih, Partial.toValue_congr same]
  have values : Partial.toValue calls = Partial.toValue calls' :=
    funext (Partial.toValue_congr same)
  simp only [Environment.view, numbered, values]

namespace Scope

/-- Scopes that read the same, the tree that is being rewritten apart. -/
structure Alike (scope scope' : Scope) : Prop where
  host : scope.host = scope'.host
  statics : scope.statics = scope'.statics
  dynamics : scope.dynamics = scope'.dynamics
  results : scope.calls.result? = scope'.calls.result?

/-- What `output` is, if there is one. -/
def outputValue? (scope : Scope) : Option Value :=
  scope.output.map (Partial.toValue scope.calls)

theorem alike_calls (scope : Scope) (same : calls.result? = calls'.result?) :
    Alike { scope with calls := calls } { scope with calls := calls' } :=
  ⟨rfl, rfl, rfl, same⟩

theorem outputValue?_calls (scope : Scope) (same : calls.result? = calls'.result?) :
    outputValue? { scope with calls := calls } = outputValue? { scope with calls := calls' } := by
  have values : Partial.toValue calls = Partial.toValue calls' :=
    funext (Partial.toValue_congr same)
  simp only [outputValue?, values]

namespace Alike

variable {scope scope' : Scope}

theorem binding?_eq (alike : Alike scope scope') (name : String) :
    scope.binding? name = scope'.binding? name := by
  simp only [binding?, alike.statics, alike.dynamics]

theorem viewOf_eq (alike : Alike scope scope') (env : Option Environment) :
    viewOf scope.calls env = viewOf scope'.calls env := by
  cases env with
  | none => rfl
  | some env => exact view_congr alike.results env

theorem builtinName_eq (alike : Alike scope scope') {name : String}
    (output : name = "output" → scope.outputValue? = scope'.outputValue?) :
    scope.builtinName name = scope'.builtinName name := by
  simp only [builtinName, alike.host, alike.viewOf_eq, alike.statics, alike.dynamics]
  by_cases asked : name = "output"
  · have read := output asked
    unfold outputValue? at read
    cases here : scope.output with
    | none =>
      cases there : scope'.output with
      | none => rfl
      | some tree' => simp [here, there] at read
    | some tree =>
      cases there : scope'.output with
      | none => simp [here, there] at read
      | some tree' =>
        simp only [here, there, Option.map_some, Option.some.injEq] at read
        simp only [read]
  · simp only [asked, if_false]

theorem lookup_eq (alike : Alike scope scope') {name : String}
    (output : name = "output" → scope.binding? name = none →
      scope.outputValue? = scope'.outputValue?) : scope.lookup name = scope'.lookup name := by
  unfold lookup
  rw [← alike.binding?_eq name]
  cases bound : scope.binding? name with
  | none => exact alike.builtinName_eq fun asked => output asked bound
  | some entry =>
    simp only [Partial.settled_congr alike.results entry,
      Partial.toValue_congr alike.results entry]

end Alike

end Scope

namespace Expr

/-- The expression does not read the tree that is being rewritten: it does not mention `output`, or
a variable has that name. -/
def Blind (scope : Scope) (e : Expr) : Prop :=
  scope.binding? "output" = none → ¬ Within (.name "output") e

theorem agree_of_alike {scope scope' : Scope} (alike : scope.Alike scope') {e : Expr}
    (output : e.Blind scope ∨ scope.outputValue? = scope'.outputValue?) (registry : Registry) :
    Agree e registry registry scope scope' where
  lookup s mentioned := by
    refine alike.lookup_eq ?_
    rintro rfl unbound
    exact output.resolve_left fun blind => blind unbound mentioned
  call _ _ _ := rfl

end Expr

end LiveConfig
