import Mathlib.Data.List.Induction
import LiveConfig.Proofs.Evaluation.Frames

set_option autoImplicit false

namespace LiveConfig.Expr

/-- A step of a postfix chain; the flag tells whether it is written with `?.`. -/
inductive Step where
  | member (optional : Bool) (property : String)
  | method (optional : Bool) (function : String) (arguments : List Expr)
  | index (position : Expr)

def guardIf (optional : Bool) (receiver : Expr) : Expr :=
  if optional then .guard receiver else receiver

@[simp] theorem guardIf_true (receiver : Expr) : guardIf true receiver = .guard receiver := rfl

@[simp] theorem guardIf_false (receiver : Expr) : guardIf false receiver = receiver := rfl

namespace Step

def optional : Step → Bool
  | .member optional _ => optional
  | .method optional _ _ => optional
  | .index _ => false

/-- The same step written with `.`. -/
def plain : Step → Step
  | .member _ property => .member false property
  | .method _ function arguments => .method false function arguments
  | .index position => .index position

/-- What the parser makes of an expression and a step behind it. -/
def onto (receiver : Expr) : Step → Expr
  | .member optional property => .member (guardIf optional receiver) property
  | .method optional function arguments => .call function (guardIf optional receiver :: arguments)
  | .index position => .index receiver position

@[simp] theorem optional_member (optional : Bool) (property : String) :
    (member optional property).optional = optional := rfl

@[simp] theorem optional_method (optional : Bool) (function : String) (arguments : List Expr) :
    (method optional function arguments).optional = optional := rfl

@[simp] theorem optional_index (position : Expr) : (index position).optional = false := rfl

@[simp] theorem onto_member (receiver : Expr) (optional : Bool) (property : String) :
    (member optional property).onto receiver = .member (guardIf optional receiver) property := rfl

@[simp] theorem onto_method (receiver : Expr) (optional : Bool) (function : String)
    (arguments : List Expr) : (method optional function arguments).onto receiver =
      .call function (guardIf optional receiver :: arguments) := rfl

@[simp] theorem onto_index (receiver position : Expr) :
    (index position).onto receiver = .index receiver position := rfl

/-- No part of the step needs a chain around it. -/
def Closed : Step → Prop
  | .member _ _ => True
  | .method _ _ arguments => GuardedAll arguments
  | .index position => Guarded false position

theorem optional_plain (step : Step) : step.plain.optional = false := by
  cases step <;> rfl

theorem Closed.plain {step : Step} (closed : step.Closed) : step.plain.Closed := by
  cases step <;> exact closed

end Step

/-- A chain of steps behind an expression. -/
def chainOf (head : Expr) (steps : List Step) : Expr :=
  closeChain (steps.any Step.optional) (steps.foldl Step.onto head)

/-- The positions of the indexes among the steps. -/
def positions (steps : List Step) : List Expr :=
  steps.filterMap fun
    | .index position => some position
    | .member _ _ => none
    | .method _ _ _ => none

/-- The expression is a primary one with steps behind it. -/
def Chained (optional : Bool) (e : Expr) : Prop :=
  ∃ hs head, Grammar.Primary hs head ∧ ∃ steps : List Step,
    optional = steps.any Step.optional ∧ e = steps.foldl Step.onto head

theorem Chained.step {optional : Bool} {e : Expr} (chained : Chained optional e) (step : Step) :
    Chained (optional || step.optional) (step.onto e) := by
  obtain ⟨hs, head, primary, steps, rfl, rfl⟩ := chained
  exact ⟨hs, head, primary, steps ++ [step], by simp, by simp⟩

theorem chained_of_chain {ts : List Token} {optional : Bool} {e : Expr}
    (chain : Grammar.Chain ts optional e) : Chained optional e := by
  cases chain with
  | primary primary => exact ⟨_, _, primary, [], rfl, rfl⟩
  | member receiver property =>
    simpa using (chained_of_chain receiver).step (.member false property)
  | optionalMember receiver property =>
    simpa using (chained_of_chain receiver).step (.member true property)
  | @method _ _ _ _ arguments receiver function passed =>
    simpa using (chained_of_chain receiver).step (.method false function arguments)
  | @optionalMethod _ _ _ _ arguments receiver function passed =>
    simpa using (chained_of_chain receiver).step (.method true function arguments)
  | @index _ _ _ _ place receiver position =>
    simpa using (chained_of_chain receiver).step (.index place)

/-- Every postfix chain that the grammar writes is a chain of steps behind a primary expression. -/
theorem eq_chainOf_of_chain {ts : List Token} {optional : Bool} {e : Expr}
    (chain : Grammar.Chain ts optional e) :
    ∃ hs head steps, Grammar.Primary hs head ∧ closeChain optional e = chainOf head steps := by
  obtain ⟨hs, head, primary, steps, rfl, rfl⟩ := chained_of_chain chain
  exact ⟨hs, head, steps, primary, rfl⟩

section

variable {registry : Registry} {scope : Scope}

/-- A step is a frame around its receiver, with a guard in between if it is optional. -/
theorem exists_plug_eq_onto (step : Step) : ∃ frames, ∀ e, plug frames e = step.onto e := by
  cases step with
  | member optional property =>
    cases optional with
    | false => exact ⟨[.receiver property], fun _ => rfl⟩
    | true => exact ⟨[.receiver property, .guarded], fun _ => rfl⟩
  | method optional function arguments =>
    cases optional with
    | false => exact ⟨[.argument function [] arguments], fun _ => rfl⟩
    | true => exact ⟨[.argument function [] arguments, .guarded], fun _ => rfl⟩
  | index position => exact ⟨[.container position], fun _ => rfl⟩

theorem Alike.step {e e' : Expr} (alike : Alike registry scope e e') (step : Step) :
    Alike registry scope (step.onto e) (step.onto e') := by
  obtain ⟨frames, onto⟩ := exists_plug_eq_onto step
  rw [← onto e, ← onto e']
  exact alike.plug frames

theorem Alike.steps {e e' : Expr} (alike : Alike registry scope e e') (steps : List Step) :
    Alike registry scope (steps.foldl Step.onto e) (steps.foldl Step.onto e') := by
  induction steps generalizing e e' with
  | nil => exact alike
  | cons step rest ih => exact ih (alike.step step)

theorem alike_plain {receiver : Expr} {v : Value}
    (evaluates : eval registry scope receiver = .ok v) (real : v ≠ .null) (step : Step) :
    Alike registry scope (step.onto receiver) (step.plain.onto receiver) := by
  have passes : eval registry scope (.guard receiver) = eval registry scope receiver := by
    rw [eval, evaluates, ok_bind]
    cases v with
    | null => exact absurd rfl real
    | _ => rfl
  have passesIf (optional : Bool) :
      eval registry scope (guardIf optional receiver) = eval registry scope receiver := by
    cases optional with
    | false => rfl
    | true => exact passes
  refine ⟨?_, ?_⟩
  · cases step with
    | member optional property => simp only [Step.onto, Step.plain, eval, passesIf]
    | method optional function arguments =>
      simp only [Step.onto, Step.plain, eval, evalAll, passesIf]
    | index position => rfl
  · cases step with
    | member optional property => simp only [Step.onto, Step.plain, evalTail, eval, passesIf]
    | method optional function arguments =>
      simp only [Step.onto, Step.plain, evalTail, evalAll, passesIf]
    | index position => rfl

theorem eval_onto_of_failing {receiver : Expr} {reason : Failure} {step : Step}
    (failed : eval registry scope (guardIf step.optional receiver) = .error reason)
    (first : positions [step] = []) :
    eval registry scope (step.onto receiver) = .error reason ∧
      evalTail registry scope (step.onto receiver) = .error reason := by
  cases step with
  | member optional property =>
    rw [Step.optional] at failed
    simp [eval, evalTail, failed]
  | method optional function arguments =>
    rw [Step.optional] at failed
    simp [eval, evalAll, evalTail, failed]
  | index position => cases first

theorem positions_of_optional {step : Step} (optional : step.optional = true) :
    positions [step] = [] := by
  cases step with
  | member _ _ => rfl
  | method _ _ _ => rfl
  | index _ => cases optional

/-- A null receiver of `?.` ends the chain before anything else of the step is evaluated. -/
theorem ended_of_optional {receiver : Expr} {step : Step}
    (null : eval registry scope receiver = .ok .null ∨
      eval registry scope receiver = .error .chainEnded) (optional : step.optional = true) :
    eval registry scope (step.onto receiver) = .error .chainEnded ∧
      evalTail registry scope (step.onto receiver) = .error .chainEnded := by
  have stops : eval registry scope (guardIf step.optional receiver) = .error .chainEnded := by
    rw [optional, guardIf_true, eval]
    obtain null | ended := null
    · rw [null]
      rfl
    · rw [ended]
      rfl
  exact eval_onto_of_failing stops (positions_of_optional optional)

theorem eval_onto_of_error {receiver : Expr} {reason : Failure}
    (failed : eval registry scope receiver = .error reason) (step : Step) :
    eval registry scope (step.onto receiver) =
        (evalAll registry scope (positions [step]) >>= fun _ => .error reason) ∧
      evalTail registry scope (step.onto receiver) =
        (evalAll registry scope (positions [step]) >>= fun _ => .error reason) := by
  have fails (optional : Bool) :
      eval registry scope (guardIf optional receiver) = .error reason := by
    cases optional with
    | false => exact failed
    | true => rw [guardIf_true, eval, failed, error_bind]
  cases step with
  | member optional property => exact eval_onto_of_failing (fails optional) rfl
  | method optional function arguments => exact eval_onto_of_failing (fails optional) rfl
  | index position =>
    cases place : eval registry scope position with
    | error other => simp [eval_index, evalAll, evalTail, positions, place]
    | ok key => simp [eval_index, evalAll, evalTail, positions, place, failed]

theorem evalAll_append (first second : List Expr) :
    evalAll registry scope (first ++ second) = (do
      let values ← evalAll registry scope first
      return values ++ (← evalAll registry scope second)) := by
  induction first with
  | nil => simp [evalAll]
  | cons e rest ih => simp [evalAll, ih]

/-- Once a chain has ended, only the positions of later indexes are evaluated, the last one
first. -/
theorem eval_steps_of_ended {receiver : Expr} {first : Step}
    (ended : eval registry scope (first.onto receiver) = .error .chainEnded ∧
      evalTail registry scope (first.onto receiver) = .error .chainEnded) (steps : List Step) :
    eval registry scope (steps.foldl Step.onto (first.onto receiver)) =
        (evalAll registry scope (positions steps).reverse >>= fun _ => .error .chainEnded) ∧
      evalTail registry scope (steps.foldl Step.onto (first.onto receiver)) =
        (evalAll registry scope (positions steps).reverse >>= fun _ => .error .chainEnded) := by
  induction steps using List.reverseRecOn with
  | nil => exact ended
  | append_singleton steps last ih =>
    have split : (positions (steps ++ [last])).reverse =
        positions [last] ++ (positions steps).reverse := by
      cases last <;> simp [positions]
    rw [List.foldl_append, split, evalAll_append]
    obtain ⟨value, _⟩ := ih
    cases earlier : evalAll registry scope (positions steps).reverse with
    | error reason =>
      rw [earlier, error_bind] at value
      simpa using eval_onto_of_error value last
    | ok keys =>
      rw [earlier, ok_bind] at value
      simpa using eval_onto_of_error value last

theorem closed_of_guarded {head : Expr} (steps : List Step) :
    ∀ {inside : Bool}, Guarded inside (steps.foldl Step.onto head) →
      ∀ step ∈ steps, step.Closed := by
  induction steps using List.reverseRecOn with
  | nil => exact fun _ _ member => nomatch member
  | append_singleton steps last ih =>
    intro inside guarded
    rw [List.foldl_append] at guarded
    have parts : last.Closed ∧ ∃ inside, Guarded inside (steps.foldl Step.onto head) := by
      cases last with
      | member optional property =>
        cases optional with
        | false => exact ⟨trivial, inside, guarded⟩
        | true => exact ⟨trivial, true, guarded.2⟩
      | method optional function arguments =>
        cases optional with
        | false => exact ⟨guarded.2, inside, guarded.1⟩
        | true => exact ⟨guarded.2, true, guarded.1.2⟩
      | index position => exact ⟨guarded.2, inside, guarded.1⟩
    obtain ⟨closed, _, earlier⟩ := parts
    intro step member
    obtain member | rfl := List.mem_append.mp member |>.imp_right List.mem_singleton.mp
    · exact ih earlier step member
    · exact closed

theorem guardedAll_positions {steps : List Step} (closed : ∀ step ∈ steps, step.Closed) :
    GuardedAll (positions steps).reverse := by
  rw [guardedAll_iff]
  intro position listed
  obtain ⟨step, member, found⟩ := List.mem_filterMap.mp (List.mem_reverse.mp listed)
  cases step with
  | member _ _ => cases found
  | method _ _ _ => cases found
  | index place =>
    cases found
    exact closed _ member

theorem failsWith_onto {receiver : Expr} {step : Step} (plain : step.optional = false)
    (closed : step.Closed) (real : FailsWith Failure.Real (eval registry scope receiver)) :
    FailsWith Failure.Real (eval registry scope (step.onto receiver)) ∧
      FailsWith Failure.Real (evalTail registry scope (step.onto receiver)) := by
  cases step with
  | member optional property =>
    obtain rfl : false = optional := plain.symm
    have value := failsWith_eval_member property real
    refine ⟨value, ?_⟩
    simp only [Step.onto, evalTail]
    exact value.bind fun _ _ => failsWith_ok _ _
  | method optional function arguments =>
    obtain rfl : false = optional := plain.symm
    have args : FailsWith Failure.Real (evalAll registry scope (receiver :: arguments)) := by
      rw [evalAll]
      refine real.bind fun _ _ => ?_
      exact (failsWith_evalAll registry scope arguments closed).bind fun _ _ => failsWith_ok _ _
    exact ⟨failsWith_eval_call function args, failsWith_evalTail_call function args⟩
  | index position =>
    have value := failsWith_eval_index real (failsWith_eval registry scope position closed)
    refine ⟨value, ?_⟩
    simp only [Step.onto, evalTail]
    exact value.bind fun _ _ => failsWith_ok _ _

theorem failsWith_steps {receiver : Expr} (steps : List Step)
    (plain : ∀ step ∈ steps, step.optional = false) (closed : ∀ step ∈ steps, step.Closed)
    (real : FailsWith Failure.Real (eval registry scope receiver) ∧
      FailsWith Failure.Real (evalTail registry scope receiver)) :
    FailsWith Failure.Real (eval registry scope (steps.foldl Step.onto receiver)) ∧
      FailsWith Failure.Real (evalTail registry scope (steps.foldl Step.onto receiver)) := by
  induction steps generalizing receiver with
  | nil => exact real
  | cons step rest ih =>
    have next := failsWith_onto (plain step (List.mem_cons_self ..))
      (closed step (List.mem_cons_self ..)) real.1
    exact ih (fun other member => plain other (List.mem_cons_of_mem _ member))
      (fun other member => closed other (List.mem_cons_of_mem _ member)) next

theorem evalAll_isOk_iff (registry : Registry) (scope : Scope) (items : List Expr) :
    (∃ values, evalAll registry scope items = .ok values) ↔
      ∀ e ∈ items, ∃ v, eval registry scope e = .ok v := by
  induction items with
  | nil => simp [evalAll]
  | cons e rest ih =>
    rw [List.forall_mem_cons, ← ih, evalAll]
    cases eval registry scope e with
    | error reason => simp
    | ok v =>
      cases evalAll registry scope rest with
      | error reason => simp
      | ok values => simp [pure, Except.pure]

end

end LiveConfig.Expr
