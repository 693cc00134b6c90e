import LiveConfig.Proofs.Inspection.Functions
import LiveConfig.Proofs.Inspection.Trees

set_option autoImplicit false

namespace LiveConfig.Inspecting

def numbered (calls : Calls) (start : Nat) : List Partial → Inspecting (List (String × Value))
  | [] => pure []
  | entry :: rest => do
    return (toString start, ← toValue calls entry) :: (← numbered calls (start + 1) rest)

def view (calls : Calls) : Option Environment → Inspecting Value
  | some env => do
    let positional := Fields.ofList (← numbered calls 0 env.positional)
    let named ← env.named.mapM fun entry => do return (entry.1, ← toValue calls entry.2)
    return .object (Fields.putAll positional named)
  | none => pure (.object [])

def binding? (scope : Scope) (name : String) : Inspecting (Option Partial) :=
  pure ((scope.dynamics.bind fun env => Fields.find? name env.named).orElse fun _ =>
    scope.statics.bind fun env => Fields.find? name env.named)

def builtinName (scope : Scope) (name : String) : Trial Value :=
  if name = "states" then pure (.object scope.host.states)
  else if name = "user" then pure scope.host.user
  else if name = "hass" then
    pure (.object [("states", .object scope.host.states), ("user", scope.host.user)])
  else if name = "vars" then do view scope.calls scope.dynamics
  else if name = "svars" then do view scope.calls scope.statics
  else if name = "output" then
    match scope.output with
    | some tree => do toValue scope.calls tree
    | none => throw .noOutput
  else throw (.undefined name)

/-- What a bare name stands for. -/
def lookup (scope : Scope) (name : String) : Trial Value := do
  match ← binding? scope name with
  | some entry =>
    if ← isSettled scope.calls entry then toValue scope.calls entry
    else throw (.pendingVariable name)
  | none => builtinName scope name

def stateEntry (scope : Scope) (name key : String) : Inspecting (Option Value) := do
  match ← binding? scope name with
  | some _ => return none
  | none =>
    if name = "states" then return some ((Fields.find? key scope.host.states).getD .null)
    else return none

def shortcut? (scope : Scope) (container : Expr) (index : Value) : Inspecting (Option Value) :=
  match container, index with
  | .name s, .text key => stateEntry scope s key
  | _, _ => pure none

/-- What a chain comes to when null has ended it. -/
def endChain {α : Type} (null : α) : Failure → Trial α
  | .chainEnded => pure null
  | failure => throw failure

mutual

/-- The value of an expression. -/
def eval (registry : Registry) (scope : Scope) : Expr → Trial Value
  | .null => pure .null
  | .bool b => pure (.bool b)
  | .number x => pure (.number x)
  | .text s => pure (.text s)
  | .name s => lookup scope s
  | .call function arguments => do
    call registry function (← evalAll registry scope arguments)
  | .index container position => do
    let key ← eval registry scope position
    match ← shortcut? scope container key with
    | some value => return value
    | none => entry (← eval registry scope container) key
  | .member receiver name => do
    property (← eval registry scope receiver) name
  | .guard receiver => do
    match ← eval registry scope receiver with
    | .null => throw .chainEnded
    | value => return value
  | .chain body => tryCatch (eval registry scope body) (endChain .null)
  | .unary op operand => do
    unary op (← eval registry scope operand)
  | .binary (.logical op) left right => do
    let decisive ← eval registry scope left
    if ← decided op decisive then return decisive else eval registry scope right
  | .binary (.arithmetic op) left right => do
    let x ← eval registry scope left
    let y ← eval registry scope right
    arithmetic op x y
  | .binary (.comparison op) left right => do
    let x ← eval registry scope left
    let y ← eval registry scope right
    comparison op x y
  | .binary .equal left right => do
    let x ← eval registry scope left
    let y ← eval registry scope right
    return .bool (← loose x y)
  | .binary .unequal left right => do
    let x ← eval registry scope left
    let y ← eval registry scope right
    return .bool (!(← loose x y))
  | .ternary condition yes no => do
    if ← truthy (← eval registry scope condition) then eval registry scope yes
    else eval registry scope no
  | .array items => do
    return .array (← evalAll registry scope items)
  | .object fields => do
    return .object (Fields.ofList (← evalFields registry scope fields))

def evalAll (registry : Registry) (scope : Scope) : List Expr → Trial (List Value)
  | [] => pure []
  | e :: rest => do
    let value ← eval registry scope e
    return value :: (← evalAll registry scope rest)

def evalFields (registry : Registry) (scope : Scope) :
    List (String × Expr) → Trial (List (String × Value))
  | [] => pure []
  | (key, e) :: rest => do
    let value ← eval registry scope e
    return (key, value) :: (← evalFields registry scope rest)

end

/-- The value of a whole expression, or the call that will bring it. -/
def evalTail (registry : Registry) (scope : Scope) : Expr → Trial Expr.Evaluated
  | .call function arguments => do
    let args ← evalAll registry scope arguments
    if ← isAsync registry function then return .call (← start registry function args)
    else return .value (← call registry function args)
  | .ternary condition yes no => do
    if ← truthy (← eval registry scope condition) then evalTail registry scope yes
    else evalTail registry scope no
  | .chain body => tryCatch (evalTail registry scope body) (endChain (.value .null))
  | e => do
    return .value (← eval registry scope e)

theorem numbered_eq (calls : Calls) (start : Nat) (entries : List Partial) :
    numbered calls start entries = pure (Environment.numbered calls start entries) := by
  induction entries generalizing start with
  | nil => rfl
  | cons entry rest ih =>
    rw [numbered, Environment.numbered, toValue_eq, ih]
    rfl

theorem view_eq (calls : Calls) (env : Option Environment) :
    view calls env = pure (Scope.viewOf calls env) := by
  cases env with
  | none => rfl
  | some env =>
    have named : (env.named.mapM fun entry => do return (entry.1, ← toValue calls entry.2)) =
        pure (Fields.mapValues (Partial.toValue calls) env.named) := by
      simp only [toValue_eq, pure_bind]
      exact List.mapM_pure
    rw [view, numbered_eq, pure_bind, named]
    rfl

theorem builtinName_eq (scope : Scope) (name : String) :
    builtinName scope name = .of (scope.builtinName name) := by
  unfold builtinName Scope.builtinName
  simp only [view_eq, toValue_eq, ← Trial.of_ite]
  cases scope.output <;> rfl

theorem binding?_eq (scope : Scope) (name : String) :
    binding? scope name = pure (scope.binding? name) := rfl

theorem lookup_eq (scope : Scope) (name : String) :
    lookup scope name = .of (scope.lookup name) := by
  rw [lookup, Scope.lookup, binding?_eq, Trial.lift_pure_bind]
  cases scope.binding? name with
  | none => exact builtinName_eq scope name
  | some entry =>
    dsimp only
    rw [isSettled_eq, toValue_eq, Trial.lift_pure_bind]
    exact Trial.of_ite _ (.ok _) (.error _)

theorem stateEntry_eq (scope : Scope) (name key : String) :
    stateEntry scope name key = pure ( scope.entry? name key) := by
  rw [stateEntry, Scope.entry?, binding?_eq, pure_bind, HostState.state?]
  by_cases named : name = "states"
  · cases scope.binding? name <;> simp [named]
  · cases scope.binding? name <;> simp [named]

theorem shortcut?_eq (scope : Scope) (container : Expr) (index : Value) :
    shortcut? scope container index = pure (Expr.shortcut? scope container index) := by
  cases container with
  | name s =>
    cases index with
    | text key => exact stateEntry_eq scope s key
    | null | bool | number | array | object => rfl
  | null | bool | number | text | call | index | member | guard | chain | unary | binary | ternary
  | array | object => rfl

section

variable (registry : Registry) (scope : Scope)

mutual

theorem eval_eq : ∀ e : Expr, eval registry scope e = .of (e.eval registry scope)
  | .null | .bool _ | .number _ | .text _ => by
    rw [eval, Expr.eval]
    rfl
  | .name s => by rw [eval, Expr.eval, lookup_eq]
  | .call function arguments => by
    rw [eval, Expr.eval, evalAll_eq arguments]
    simp only [call_eq, Trial.of_bind]
  | .index container position => by
    rw [eval, Expr.eval, eval_eq position, eval_eq container, ← Trial.of_bind]
    refine congrArg _ (funext fun key => ?_)
    -- The container is evaluated only where the shortcut finds nothing.
    rw [shortcut?_eq, Trial.lift_pure_bind]
    cases Expr.shortcut? scope container key with
    | some value => rfl
    | none =>
      simp only [entry_eq]
      exact Trial.of_bind _ _
  | .member receiver name => by
    rw [eval, Expr.eval, eval_eq receiver]
    simp only [property_eq, Trial.of_bind]
  | .guard receiver => by
    rw [eval, Expr.eval, eval_eq receiver, ← Trial.of_bind]
    refine congrArg _ (funext fun value => ?_)
    cases value <;> rfl
  | .chain body => by
    rw [eval, Expr.eval, eval_eq body]
    cases body.eval registry scope with
    | ok value => rfl
    | error failure => cases failure <;> rfl
  | .unary op operand => by
    rw [eval, Expr.eval, eval_eq operand]
    simp only [unary_eq, Trial.of_bind]
  | .binary (.logical op) left right => by
    rw [eval, Expr.eval, eval_eq left, eval_eq right, ← Trial.of_bind]
    refine congrArg _ (funext fun decisive => ?_)
    rw [decided_eq, Trial.lift_pure_bind]
    exact Trial.of_ite _ (.ok _) _
  | .binary (.arithmetic op) left right => by
    rw [eval, Expr.eval, eval_eq left, eval_eq right]
    simp only [arithmetic_eq, Trial.of_bind]
  | .binary (.comparison op) left right => by
    rw [eval, Expr.eval, eval_eq left, eval_eq right]
    simp only [comparison_eq, Trial.of_bind]
  | .binary .equal left right => by
    rw [eval, Expr.eval, eval_eq left, eval_eq right]
    simp only [loose_eq, Trial.lift_pure_bind, Trial.pure_eq, Trial.of_bind]
    rfl
  | .binary .unequal left right => by
    rw [eval, Expr.eval, eval_eq left, eval_eq right]
    simp only [loose_eq, Trial.lift_pure_bind, Trial.pure_eq, Trial.of_bind]
    rfl
  | .ternary condition yes no => by
    rw [eval, Expr.eval, eval_eq condition, eval_eq yes, eval_eq no]
    simp only [truthy_eq, Trial.lift_pure_bind, Trial.of_ite, Trial.of_bind]
  | .array items => by
    rw [eval, Expr.eval, evalAll_eq items]
    exact Trial.of_bind _ _
  | .object fields => by
    rw [eval, Expr.eval, evalFields_eq fields]
    exact Trial.of_bind _ _

theorem evalAll_eq : ∀ items : List Expr,
    evalAll registry scope items = .of (Expr.evalAll registry scope items)
  | [] => by
    rw [evalAll, Expr.evalAll]
    rfl
  | e :: rest => by
    rw [evalAll, Expr.evalAll, eval_eq e, evalAll_eq rest]
    simp only [Trial.pure_eq, Trial.of_bind]
    rfl

theorem evalFields_eq : ∀ fields : List (String × Expr),
    evalFields registry scope fields = .of (Expr.evalFields registry scope fields)
  | [] => by
    rw [evalFields, Expr.evalFields]
    rfl
  | (key, e) :: rest => by
    rw [evalFields, Expr.evalFields, eval_eq e, evalFields_eq rest]
    simp only [Trial.pure_eq, Trial.of_bind]
    rfl

end

/-- Nothing that a value holds is looked into while an expression is evaluated. -/
theorem evalTail_eq : ∀ e : Expr, evalTail registry scope e = .of (e.evalTail registry scope)
  | .call function arguments => by
    rw [evalTail, Expr.evalTail, evalAll_eq, ← Trial.of_bind]
    refine congrArg _ (funext fun args => ?_)
    rw [isAsync_eq, Trial.lift_pure_bind, start_eq, call_eq, ← Trial.of_ite, ← Trial.of_bind,
      ← Trial.of_bind]
    rfl
  | .ternary condition yes no => by
    rw [evalTail, Expr.evalTail, eval_eq, evalTail_eq yes, evalTail_eq no]
    simp only [truthy_eq, Trial.lift_pure_bind, Trial.of_ite, Trial.of_bind]
  | .chain body => by
    rw [evalTail, Expr.evalTail, evalTail_eq body]
    cases body.evalTail registry scope with
    | ok evaluated => rfl
    | error failure => cases failure <;> rfl
  | .null | .bool _ | .number _ | .text _ | .name _ | .index _ _ | .member _ _ | .guard _
  | .unary _ _ | .binary _ _ _ | .array _ | .object _ => by
    simp only [evalTail, Expr.evalTail, eval_eq]
    exact Trial.of_bind _ _

end

end LiveConfig.Inspecting
