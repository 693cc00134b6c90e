import LiveConfig.Proofs.Evaluation.Agreement

set_option autoImplicit false

/- Evaluation without the shortcut to one state. The evaluator is written once more, with the way to
read an entry without its container left open: a way that finds nothing but what the container
holds makes no difference, and no way at all is one of these. -/

namespace LiveConfig.Expr

mutual

/-- The value of an expression; the container of an index is evaluated where `direct` does not tell
the entry. -/
def evalWith (direct : Expr → Value → Option Value) (registry : Registry) (scope : Scope) :
    Expr → Except Failure Value
  | .null => .ok .null
  | .bool b => .ok (.bool b)
  | .number x => .ok (.number x)
  | .text s => .ok (.text s)
  | .name s => scope.lookup s
  | .call function arguments => do
    registry.call function (← evalAllWith direct registry scope arguments)
  | .index container position => do
    let key ← evalWith direct registry scope position
    match direct container key with
    | some value => return value
    | none => (← evalWith direct registry scope container).entry key
  | .member receiver property => do
    (← evalWith direct registry scope receiver).property property
  | .guard receiver => do
    guardNull (← evalWith direct registry scope receiver)
  | .chain body =>
    match evalWith direct registry scope body with
    | .error .chainEnded => .ok .null
    | result => result
  | .unary op operand => do
    op.apply (← evalWith direct registry scope operand)
  | .binary (.logical op) left right => do
    let decisive ← evalWith direct registry scope left
    if op.decided decisive then return decisive else evalWith direct registry scope right
  | .binary (.arithmetic op) left right => do
    let x ← evalWith direct registry scope left
    let y ← evalWith direct registry scope right
    op.onValues x y
  | .binary (.comparison op) left right => do
    let x ← evalWith direct registry scope left
    let y ← evalWith direct registry scope right
    op.onValues x y
  | .binary .equal left right => do
    let x ← evalWith direct registry scope left
    let y ← evalWith direct registry scope right
    return .bool (x.loose y)
  | .binary .unequal left right => do
    let x ← evalWith direct registry scope left
    let y ← evalWith direct registry scope right
    return .bool (!x.loose y)
  | .ternary condition yes no => do
    if (← evalWith direct registry scope condition).truthy then evalWith direct registry scope yes
    else evalWith direct registry scope no
  | .array items => do
    return .array (← evalAllWith direct registry scope items)
  | .object fields => do
    return .object (Fields.ofList (← evalFieldsWith direct registry scope fields))

def evalAllWith (direct : Expr → Value → Option Value) (registry : Registry) (scope : Scope) :
    List Expr → Except Failure (List Value)
  | [] => .ok []
  | e :: rest => do
    let value ← evalWith direct registry scope e
    return value :: (← evalAllWith direct registry scope rest)

def evalFieldsWith (direct : Expr → Value → Option Value) (registry : Registry) (scope : Scope) :
    List (String × Expr) → Except Failure (List (String × Value))
  | [] => .ok []
  | (key, e) :: rest => do
    let value ← evalWith direct registry scope e
    return (key, value) :: (← evalFieldsWith direct registry scope rest)

end

/-- The value of a whole expression, or the call that will bring it. -/
def evalTailWith (direct : Expr → Value → Option Value) (registry : Registry) (scope : Scope) :
    Expr → Except Failure Evaluated
  | .call function arguments => do
    let args ← evalAllWith direct registry scope arguments
    if registry.isAsync function then return .call (← registry.start function args)
    else return .value (← registry.call function args)
  | .ternary condition yes no => do
    if (← evalWith direct registry scope condition).truthy then
      evalTailWith direct registry scope yes
    else evalTailWith direct registry scope no
  | .chain body =>
    match evalTailWith direct registry scope body with
    | .error .chainEnded => .ok (.value .null)
    | result => result
  | e => do
    return .value (← evalWith direct registry scope e)

/-- Whatever is read directly is what evaluating the container and reading its entry gives. -/
def Faithful (direct : Expr → Value → Option Value) (registry : Registry) (scope : Scope) : Prop :=
  ∀ container key v, direct container key = some v →
    (eval registry scope container >>= (·.entry key)) = .ok v

section

variable {direct : Expr → Value → Option Value} {registry : Registry} {scope : Scope}

mutual

theorem evalWith_eq (faithful : Faithful direct registry scope) :
    ∀ e : Expr, evalWith direct registry scope e = eval registry scope e
  | .null | .bool _ | .number _ | .text _ | .name _ => by rw [evalWith, eval]
  | .call function arguments => by rw [evalWith, eval, evalAllWith_eq faithful arguments]
  | .index container position => by
    rw [evalWith, eval_index, evalWith_eq faithful position, evalWith_eq faithful container]
    refine congrArg _ (funext fun key => ?_)
    split
    · next v found => exact (faithful container key v found).symm
    · rfl
  | .member receiver property => by rw [evalWith, eval, evalWith_eq faithful receiver]
  | .guard receiver => by rw [evalWith, eval, evalWith_eq faithful receiver]
  | .chain body => by
    -- Rewriting the right side as well would leave two matches that are equal only when unfolded.
    rw [evalWith, evalWith_eq faithful body]
    exact (eval.eq_def registry scope (.chain body)).symm
  | .unary op operand => by rw [evalWith, eval, evalWith_eq faithful operand]
  | .binary op left right => by
    have first := evalWith_eq faithful left
    have second := evalWith_eq faithful right
    cases op with
    | logical op => rw [evalWith, eval, first, second]
    | arithmetic op => rw [evalWith, eval, first, second]
    | comparison op => rw [evalWith, eval, first, second]
    | equal => rw [evalWith, eval, first, second]
    | unequal => rw [evalWith, eval, first, second]
  | .ternary condition yes no => by
    rw [evalWith, eval, evalWith_eq faithful condition, evalWith_eq faithful yes,
      evalWith_eq faithful no]
  | .array items => by rw [evalWith, eval, evalAllWith_eq faithful items]
  | .object fields => by rw [evalWith, eval, evalFieldsWith_eq faithful fields]

theorem evalAllWith_eq (faithful : Faithful direct registry scope) :
    ∀ items : List Expr, evalAllWith direct registry scope items = evalAll registry scope items
  | [] => by rw [evalAllWith, evalAll]
  | e :: rest => by
    rw [evalAllWith, evalAll, evalWith_eq faithful e, evalAllWith_eq faithful rest]

theorem evalFieldsWith_eq (faithful : Faithful direct registry scope) :
    ∀ fields : List (String × Expr),
      evalFieldsWith direct registry scope fields = evalFields registry scope fields
  | [] => by rw [evalFieldsWith, evalFields]
  | (_, e) :: rest => by
    rw [evalFieldsWith, evalFields, evalWith_eq faithful e, evalFieldsWith_eq faithful rest]

end

theorem evalTailWith_eq (faithful : Faithful direct registry scope) :
    ∀ e : Expr, evalTailWith direct registry scope e = evalTail registry scope e
  | .call function arguments => by rw [evalTailWith, evalTail, evalAllWith_eq faithful arguments]
  | .ternary condition yes no => by
    rw [evalTailWith, evalTail, evalWith_eq faithful condition, evalTailWith_eq faithful yes,
      evalTailWith_eq faithful no]
  | .chain body => by
    rw [evalTailWith, evalTailWith_eq faithful body]
    exact (evalTail.eq_def registry scope (.chain body)).symm
  | .null | .bool _ | .number _ | .text _ | .name _ | .index _ _ | .member _ _ | .guard _
  | .unary _ _ | .binary _ _ _ | .array _ | .object _ => by
    simp only [evalTailWith, evalTail, evalWith_eq faithful]

end

/-- Neither a host state nor a variable of any tier that is called `states` is read otherwise by
the shortcut. -/
theorem faithful_shortcut (registry : Registry) (scope : Scope) :
    Faithful (shortcut? scope) registry scope :=
  fun _ _ _ found => entry_of_shortcut? found registry

theorem faithful_none (registry : Registry) (scope : Scope) :
    Faithful (fun _ _ => none) registry scope := nofun

/-- The evaluator that takes the shortcut, which is the one of the language, and the one that always
evaluates the container in full and then reads its entry come to the same result, with every
expression in every scope. -/
theorem eval_shortcut_invisible (registry : Registry) (scope : Scope) (e : Expr) :
    (evalWith (shortcut? scope) registry scope e = eval registry scope e ∧
      evalWith (fun _ _ => none) registry scope e = eval registry scope e) ∧
    evalTailWith (shortcut? scope) registry scope e = evalTail registry scope e ∧
      evalTailWith (fun _ _ => none) registry scope e = evalTail registry scope e :=
  ⟨⟨evalWith_eq (faithful_shortcut registry scope) e, evalWith_eq (faithful_none registry scope) e⟩,
    evalTailWith_eq (faithful_shortcut registry scope) e,
    evalTailWith_eq (faithful_none registry scope) e⟩

end LiveConfig.Expr
