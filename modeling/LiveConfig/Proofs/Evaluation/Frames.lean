import LiveConfig.Proofs.Evaluation.Agreement

set_option autoImplicit false

namespace LiveConfig.Expr

/-- An expression with one of its parts left out. -/
inductive Frame where
  | argument (function : String) (before after : List Expr)
  | container (position : Expr)
  | position (container : Expr)
  | receiver (property : String)
  | guarded
  | body
  | operand (op : UnaryOp)
  | left (op : BinaryOp) (right : Expr)
  | right (op : BinaryOp) (left : Expr)
  | condition (yes no : Expr)
  | yes (condition no : Expr)
  | no (condition yes : Expr)
  | item (before after : List Expr)
  | field (before : List (String × Expr)) (key : String) (after : List (String × Expr))

def Frame.fill : Frame → Expr → Expr
  | .argument function before after, e => .call function (before ++ e :: after)
  | .container place, e => .index e place
  | .position outer, e => .index outer e
  | .receiver property, e => .member e property
  | .guarded, e => .guard e
  | .body, e => .chain e
  | .operand op, e => .unary op e
  | .left op second, e => .binary op e second
  | .right op first, e => .binary op first e
  | .condition chosen other, e => .ternary e chosen other
  | .yes asked other, e => .ternary asked e other
  | .no asked other, e => .ternary asked other e
  | .item before after, e => .array (before ++ e :: after)
  | .field before key after, e => .object (before ++ (key, e) :: after)

/-- An expression within frames, the outermost of which comes first. -/
def plug (frames : List Frame) (e : Expr) : Expr :=
  frames.foldr Frame.fill e

@[simp] theorem plug_nil (e : Expr) : plug [] e = e := rfl

theorem plug_append (outer inner : List Frame) (e : Expr) :
    plug (outer ++ inner) e = plug outer (plug inner e) :=
  List.foldr_append

/-- Expressions that come to the same, by themselves and within other ones. -/
structure Alike (registry : Registry) (scope : Scope) (e e' : Expr) : Prop where
  value : eval registry scope e = eval registry scope e'
  tail : evalTail registry scope e = evalTail registry scope e'

section

variable {registry : Registry} {scope : Scope} {e e' : Expr}

theorem evalAll_replace (same : eval registry scope e = eval registry scope e')
    (before after : List Expr) :
    evalAll registry scope (before ++ e :: after) =
      evalAll registry scope (before ++ e' :: after) := by
  induction before with
  | nil => rw [List.nil_append, List.nil_append, evalAll, evalAll, same]
  | cons first rest ih => rw [List.cons_append, List.cons_append, evalAll, evalAll, ih]

theorem evalFields_replace (same : eval registry scope e = eval registry scope e')
    (before : List (String × Expr)) (key : String) (after : List (String × Expr)) :
    evalFields registry scope (before ++ (key, e) :: after) =
      evalFields registry scope (before ++ (key, e') :: after) := by
  induction before with
  | nil => rw [List.nil_append, List.nil_append, evalFields, evalFields, same]
  | cons first rest ih => rw [List.cons_append, List.cons_append, evalFields, evalFields, ih]

theorem eval_fill_congr (same : eval registry scope e = eval registry scope e') (frame : Frame) :
    eval registry scope (frame.fill e) = eval registry scope (frame.fill e') := by
  cases frame with
  | argument function before after =>
    rw [Frame.fill, Frame.fill, eval, eval, evalAll_replace same]
  | container position => rw [Frame.fill, Frame.fill, eval_index, eval_index, same]
  | position container => rw [Frame.fill, Frame.fill, eval_index, eval_index, same]
  | left op right => cases op <;> rw [Frame.fill, Frame.fill, eval, eval, same]
  | right op left => cases op <;> rw [Frame.fill, Frame.fill, eval, eval, same]
  | item before after => rw [Frame.fill, Frame.fill, eval, eval, evalAll_replace same]
  | field before key after => rw [Frame.fill, Frame.fill, eval, eval, evalFields_replace same]
  | receiver _ | guarded | body | operand _ | condition _ _ | yes _ _ | no _ _ =>
    rw [Frame.fill, Frame.fill, eval, eval, same]

theorem Alike.fill (alike : Alike registry scope e e') (frame : Frame) :
    Alike registry scope (frame.fill e) (frame.fill e') := by
  have value := eval_fill_congr alike.value frame
  refine ⟨value, ?_⟩
  cases frame with
  | argument function before after =>
    simp only [Frame.fill, evalTail, evalAll_replace alike.value]
  | condition _ _ => rw [Frame.fill, Frame.fill, evalTail, evalTail, alike.value]
  | body | yes _ _ | no _ _ => rw [Frame.fill, Frame.fill, evalTail, evalTail, alike.tail]
  | container _ | position _ | receiver _ | guarded | operand _ | left _ _ | right _ _ | item _ _
  | field _ _ _ =>
    simp only [Frame.fill] at value
    simp only [Frame.fill, evalTail, value]

theorem Alike.plug (alike : Alike registry scope e e') (frames : List Frame) :
    Alike registry scope (plug frames e) (plug frames e') := by
  induction frames with
  | nil => exact alike
  | cons frame rest ih => exact ih.fill frame

theorem eval_chain_of_real {body : Expr}
    (real : FailsWith Failure.Real (eval registry scope body)) :
    eval registry scope (.chain body) = eval registry scope body := by
  rw [eval]
  split
  · next ended => exact absurd rfl (real _ ended)
  · rfl

theorem evalTail_chain_of_real {body : Expr}
    (real : FailsWith Failure.Real (evalTail registry scope body)) :
    evalTail registry scope (.chain body) = evalTail registry scope body := by
  rw [evalTail]
  split
  · next ended => exact absurd rfl (real _ ended)
  · rfl

end

end LiveConfig.Expr
