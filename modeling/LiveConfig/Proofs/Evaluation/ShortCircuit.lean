import LiveConfig.Proofs.Evaluation.Steps
import Mathlib

set_option autoImplicit false

namespace LiveConfig.Expr

section

variable {registry : Registry} {scope : Scope}

theorem eval_chain_of_ended {body : Expr} {keys : Except Failure (List Value)}
    (real : FailsWith Failure.Real keys)
    (ended : eval registry scope body = (keys >>= fun _ => .error .chainEnded)) :
    eval registry scope (.chain body) = keys.map fun _ => .null := by
  rw [eval, ended]
  cases keys with
  | ok values => rfl
  | error reason =>
    rw [error_bind]
    split
    · next same => exact absurd (Except.error.inj same) (real reason rfl)
    · rfl

theorem evalTail_chain_of_ended {body : Expr} {keys : Except Failure (List Value)}
    (real : FailsWith Failure.Real keys)
    (ended : evalTail registry scope body = (keys >>= fun _ => .error .chainEnded)) :
    evalTail registry scope (.chain body) = keys.map fun _ => .value .null := by
  rw [evalTail, ended]
  cases keys with
  | ok values => rfl
  | error reason =>
    rw [error_bind]
    split
    · next same => exact absurd (Except.error.inj same) (real reason rfl)
    · rfl

theorem eval_of_closeChain {optional : Bool} {body : Expr} {v : Value}
    (evaluates : eval registry scope (closeChain optional body) = .ok v) :
    eval registry scope body = .ok v ∨
      v = .null ∧ eval registry scope body = .error .chainEnded := by
  cases optional with
  | false => exact Or.inl evaluates
  | true =>
    simp only [closeChain, if_true, eval] at evaluates
    split at evaluates
    · next ended => exact Or.inr ⟨(Except.ok.inj evaluates).symm, ended⟩
    · exact Or.inl evaluates

theorem eval_chain_congr {body body' : Expr}
    (same : eval registry scope body = eval registry scope body') :
    eval registry scope (.chain body) = eval registry scope (.chain body') := by
  rw [eval, eval, same]

theorem evalTail_chain_congr {body body' : Expr}
    (same : evalTail registry scope body = evalTail registry scope body') :
    evalTail registry scope (.chain body) = evalTail registry scope (.chain body') := by
  rw [evalTail, evalTail, same]

theorem foldl_onto_middle (head : Expr) (before after : List Step) (middle : Step) :
    (before ++ middle :: after).foldl Step.onto head =
      after.foldl Step.onto (middle.onto (before.foldl Step.onto head)) := by
  rw [List.foldl_append, List.foldl_cons]

theorem chainOf_of_optional (head : Expr) {before after : List Step} {step : Step}
    (optional : step.optional = true) :
    chainOf head (before ++ step :: after) =
      .chain ((before ++ step :: after).foldl Step.onto head) := by
  have marked : (before ++ step :: after).any Step.optional = true := by simp [optional]
  rw [chainOf, marked]
  rfl

theorem eval_chainOf_of_null {head : Expr} {before after : List Step} {step : Step}
    (closed : ∀ other ∈ after, other.Closed) (optional : step.optional = true)
    (null : eval registry scope (chainOf head before) = .ok .null) :
    eval registry scope (chainOf head (before ++ step :: after)) =
        (evalAll registry scope (positions after).reverse).map (fun _ => .null) ∧
      evalTail registry scope (chainOf head (before ++ step :: after)) =
        (evalAll registry scope (positions after).reverse).map (fun _ => .value .null) := by
  have real := failsWith_evalAll registry scope _ (guardedAll_positions closed)
  have receiver := (eval_of_closeChain null).imp_right And.right
  have ended := eval_steps_of_ended (ended_of_optional receiver optional) after
  rw [← foldl_onto_middle] at ended
  rw [chainOf_of_optional head optional]
  exact ⟨eval_chain_of_ended real ended.1, evalTail_chain_of_ended real ended.2⟩

theorem eval_chainOf_of_value {head : Expr} {before after : List Step} {step : Step} {v : Value}
    (closed : ∀ other ∈ step :: after, other.Closed) (optional : step.optional = true)
    (evaluates : eval registry scope (chainOf head before) = .ok v) (some : v ≠ .null) :
    eval registry scope (chainOf head (before ++ step :: after)) =
        eval registry scope (chainOf head (before ++ step.plain :: after)) ∧
      evalTail registry scope (chainOf head (before ++ step :: after)) =
        evalTail registry scope (chainOf head (before ++ step.plain :: after)) := by
  obtain receiver | ⟨null, _⟩ := eval_of_closeChain evaluates
  · have alike := (alike_plain receiver some step).steps after
    rw [← foldl_onto_middle, ← foldl_onto_middle] at alike
    rw [chainOf_of_optional head optional, chainOf]
    cases others : (before ++ step.plain :: after).any Step.optional with
    | true => exact ⟨eval_chain_congr alike.value, evalTail_chain_congr alike.tail⟩
    | false =>
      -- without another `?.` no chain is marked, and none is needed
      have plain : ∀ other ∈ after, other.optional = false := fun other member =>
        Bool.eq_false_iff.mpr (List.any_eq_false.mp others other
          (List.mem_append_right _ (List.mem_cons_of_mem _ member)))
      have first : FailsWith Failure.Real (eval registry scope (before.foldl Step.onto head)) := by
        rw [receiver]
        exact failsWith_ok _ _
      have ends := failsWith_steps after plain
        (fun other member => closed other (List.mem_cons_of_mem _ member))
        (failsWith_onto step.optional_plain (closed step (List.mem_cons_self ..)).plain first)
      rw [← foldl_onto_middle] at ends
      have value := eval_chain_of_real ends.1
      have tail := evalTail_chain_of_real ends.2
      exact ⟨(eval_chain_congr alike.value).trans value,
        (evalTail_chain_congr alike.tail).trans tail⟩
  · exact absurd null some

end

theorem closed_of_parse {source : String} {whole head : Expr} {steps : List Step}
    (parsed : parse source = .ok whole) (within : Within (chainOf head steps) whole) :
    ∀ step ∈ steps, step.Closed := by
  have guarded := (Grammar.guarded_of_parse parsed).within within
  unfold chainOf closeChain at guarded
  split at guarded
  · rw [Guarded] at guarded
    exact closed_of_guarded steps guarded
  · exact closed_of_guarded steps guarded

/-- A null receiver of `?.` makes the chain null, unless the position of a later index fails: those
are evaluated all the same, the last one first, and nothing else behind the receiver is. For a
receiver that is not null, `?.` does what `.` does. -/
theorem eval_chainOf_of_optional {source : String} {whole head : Expr} {before after : List Step}
    {step : Step} (parsed : parse source = .ok whole)
    (within : Within (chainOf head (before ++ step :: after)) whole)
    (optional : step.optional = true) (registry : Registry) (scope : Scope) :
    (eval registry scope (chainOf head before) = .ok .null →
      eval registry scope (chainOf head (before ++ step :: after)) =
        (evalAll registry scope (positions after).reverse).map (fun _ => .null) ∧
      evalTail registry scope (chainOf head (before ++ step :: after)) =
        (evalAll registry scope (positions after).reverse).map (fun _ => .value .null) ∧
      (eval registry scope (chainOf head (before ++ step :: after)) = .ok .null ↔
        ∀ position ∈ positions after, ∃ key, eval registry scope position = .ok key)) ∧
    (∀ v, eval registry scope (chainOf head before) = .ok v → v ≠ .null →
      eval registry scope (chainOf head (before ++ step :: after)) =
        eval registry scope (chainOf head (before ++ step.plain :: after)) ∧
      evalTail registry scope (chainOf head (before ++ step :: after)) =
        evalTail registry scope (chainOf head (before ++ step.plain :: after))) := by
  have closed := closed_of_parse parsed within
  have closedStep : ∀ other ∈ step :: after, other.Closed := fun other member =>
    closed other (List.mem_append_right _ member)
  refine ⟨fun null => ?_, fun v evaluates some =>
    eval_chainOf_of_value closedStep optional evaluates some⟩
  have closedAfter : ∀ other ∈ after, other.Closed := fun other member =>
    closedStep other (List.mem_cons_of_mem _ member)
  obtain ⟨value, tail⟩ := eval_chainOf_of_null closedAfter optional null
  refine ⟨value, tail, ?_⟩
  have all := evalAll_isOk_iff registry scope (positions after).reverse
  simp only [List.mem_reverse] at all
  rw [← all, value]
  cases evalAll registry scope (positions after).reverse with
  | ok keys => simp [Except.map]
  | error reason => simp [Except.map]

/-- `null?.a.f(nope)['b']` is null, and `'ab'?.length` is what `'ab'.length` is. -/
theorem eval_optional_method :
    eval {} { host := {} } (chainOf .null ([] ++ .member true "a" ::
      [.method false "f" [.name "nope"], .index (.text "b")])) = .ok .null ∧
    eval {} { host := {} } (chainOf (.text "ab") ([] ++ .member true "length" :: [])) =
      eval {} { host := {} } (chainOf (.text "ab") ([] ++ .member false "length" :: [])) := by
  constructor
  · have parsed : parse "null?.a.f(nope)['b']" = .ok (chainOf .null ([] ++ .member true "a" ::
        [.method false "f" [.name "nope"], .index (.text "b")])) := by cbv
    have chain := eval_chainOf_of_optional parsed .here rfl {} { host := {} }
    refine (chain.1 rfl).2.2.mpr ?_
    simp [positions, eval]
  · have parsed : parse "'ab'?.length" =
        .ok (chainOf (.text "ab") ([] ++ .member true "length" :: [])) := by cbv
    have chain := eval_chainOf_of_optional parsed .here rfl {} { host := {} }
    exact (chain.2 (.text "ab") rfl (by simp)).1

/-- A null receiver does not make every chain null: in `null?.a[nope]` the position fails. -/
theorem not_null_of_optional :
    ¬ ∀ (source : String) (head : Expr) (before after : List Step) (step : Step)
      (registry : Registry) (scope : Scope),
      parse source = .ok (chainOf head (before ++ step :: after)) → step.optional = true →
      eval registry scope (chainOf head before) = .ok .null →
      eval registry scope (chainOf head (before ++ step :: after)) = .ok .null := by
  intro always
  have parsed : parse "null?.a[nope]" =
      .ok (chainOf .null ([] ++ .member true "a" :: [.index (.name "nope")])) := by cbv
  have null := always _ _ _ _ _ {} { host := {} } parsed rfl rfl
  have failed : eval {} { host := {} } (chainOf .null ([] ++ .member true "a" ::
      [.index (.name "nope")])) = .error (.undefined "nope") := rfl
  rw [failed] at null
  cases null

end LiveConfig.Expr
