import LiveConfig.Proofs.Evaluation.Guarded

set_option autoImplicit false

namespace LiveConfig

namespace Expr

theorem entry_of_shortcut? {scope : Scope} {container : Expr} {key v : Value}
    (found : shortcut? scope container key = some v) (registry : Registry) :
    (eval registry scope container >>= (·.entry key)) = .ok v := by
  unfold shortcut? at found
  split at found
  · next s k =>
    unfold Scope.entry? at found
    split at found
    · next unhidden =>
      obtain ⟨rfl, free⟩ := unhidden
      cases found
      rw [eval, Scope.lookup, free]
      rfl
    · cases found
  · cases found

/-- The shortcut to one state cannot be seen: an index is its position, then its container, then
the entry. -/
theorem eval_index (registry : Registry) (scope : Scope) (container position : Expr) :
    eval registry scope (.index container position) = (do
      let key ← eval registry scope position
      (← eval registry scope container).entry key) := by
  rw [eval]
  refine congrArg _ (funext fun key => ?_)
  split
  · next v found => exact (entry_of_shortcut? found registry).symm
  · rfl

/-- Registries and scopes that answer alike all that an expression asks of them. -/
structure Agree (e : Expr) (registry registry' : Registry) (scope scope' : Scope) : Prop where
  lookup : ∀ s, Within (.name s) e → scope.lookup s = scope'.lookup s
  call : ∀ function arguments, Within (.call function arguments) e →
    registry.call function = registry'.call function

theorem Agree.part {e whole : Expr} {registry registry' : Registry} {scope scope' : Scope}
    (agree : Agree whole registry registry' scope scope')
    (inside : ∀ {x}, Within x e → Within x whole) : Agree e registry registry' scope scope' where
  lookup s mentioned := agree.lookup s (inside mentioned)
  call function arguments called := agree.call function arguments (inside called)

mutual

/-- The value of an expression depends on nothing but what it asks. -/
theorem eval_congr {registry registry' : Registry} {scope scope' : Scope} :
    ∀ e : Expr, Agree e registry registry' scope scope' →
      eval registry scope e = eval registry' scope' e
  | .null, _ | .bool _, _ | .number _, _ | .text _, _ => by rw [eval, eval]
  | .name s, agree => by
    rw [eval, eval]
    exact agree.lookup s .here
  | .call function arguments, agree => by
    rw [eval, eval, evalAll_congr arguments fun a member => agree.part (.argument member),
      agree.call function arguments .here]
  | .index container position, agree => by
    rw [eval_index, eval_index, eval_congr container (agree.part .container),
      eval_congr position (agree.part .position)]
  | .member receiver property, agree => by
    rw [eval, eval, eval_congr receiver (agree.part .receiver)]
  | .guard receiver, agree => by rw [eval, eval, eval_congr receiver (agree.part .guarded)]
  | .chain body, agree => by rw [eval, eval, eval_congr body (agree.part .body)]
  | .unary op operand, agree => by rw [eval, eval, eval_congr operand (agree.part .operand)]
  | .binary op left right, agree => by
    have first := eval_congr left (agree.part .left)
    have second := eval_congr right (agree.part .right)
    cases op with
    | logical op => rw [eval, eval, first, second]
    | arithmetic op => rw [eval, eval, first, second]
    | comparison op => rw [eval, eval, first, second]
    | equal => rw [eval, eval, first, second]
    | unequal => rw [eval, eval, first, second]
  | .ternary condition yes no, agree => by
    rw [eval, eval, eval_congr condition (agree.part .condition),
      eval_congr yes (agree.part .yes), eval_congr no (agree.part .no)]
  | .array items, agree => by
    rw [eval, eval, evalAll_congr items fun a member => agree.part (.item member)]
  | .object fields, agree => by
    rw [eval, eval, evalFields_congr fields fun field member => agree.part (.field member)]

theorem evalAll_congr {registry registry' : Registry} {scope scope' : Scope} :
    ∀ items : List Expr, (∀ e ∈ items, Agree e registry registry' scope scope') →
      evalAll registry scope items = evalAll registry' scope' items
  | [], _ => by rw [evalAll, evalAll]
  | e :: rest, agree => by
    rw [evalAll, evalAll, eval_congr e (agree e List.mem_cons_self),
      evalAll_congr rest fun other member => agree other (List.mem_cons_of_mem _ member)]

theorem evalFields_congr {registry registry' : Registry} {scope scope' : Scope} :
    ∀ fields : List (String × Expr),
      (∀ field ∈ fields, Agree field.2 registry registry' scope scope') →
      evalFields registry scope fields = evalFields registry' scope' fields
  | [], _ => by rw [evalFields, evalFields]
  | (key, e) :: rest, agree => by
    rw [evalFields, evalFields, eval_congr e (agree (key, e) List.mem_cons_self),
      evalFields_congr rest fun other member => agree other (List.mem_cons_of_mem _ member)]

end

theorem evalTail_congr {registry registry' : Registry} {scope scope' : Scope} :
    ∀ e : Expr, Agree e registry registry' scope scope' →
      (∀ function arguments, Within (.call function arguments) e →
        registry.find? function = registry'.find? function) →
      evalTail registry scope e = evalTail registry' scope' e
  | .call function arguments, agree, found => by
    have args := evalAll_congr arguments fun a member => agree.part (.argument member)
    have here := found function arguments .here
    have async : registry.isAsync function = registry'.isAsync function := by
      rw [Registry.isAsync_eq, Registry.isAsync_eq, here]
    have start : registry.start function = registry'.start function := by
      funext values
      rw [Registry.start_eq, Registry.start_eq, here]
    rw [evalTail, evalTail, args, agree.call function arguments .here, async, start]
  | .ternary condition yes no, agree, found => by
    rw [evalTail, evalTail, eval_congr condition (agree.part .condition),
      evalTail_congr yes (agree.part .yes) fun _ _ called => found _ _ (.yes called),
      evalTail_congr no (agree.part .no) fun _ _ called => found _ _ (.no called)]
  | .chain body, agree, found => by
    rw [evalTail, evalTail,
      evalTail_congr body (agree.part .body) fun _ _ called => found _ _ (.body called)]
  | .null, agree, _ | .bool _, agree, _ | .number _, agree, _ | .text _, agree, _
  | .name _, agree, _ | .index _ _, agree, _ | .member _ _, agree, _ | .guard _, agree, _
  | .unary _ _, agree, _ | .binary _ _ _, agree, _ | .array _, agree, _
  | .object _, agree, _ => by
    simp only [evalTail, eval_congr _ agree]

end Expr

end LiveConfig
