import Mathlib
import LiveConfig.Engine
import LiveConfig.Proofs.Evaluation.Agreement

set_option autoImplicit false

namespace LiveConfig

namespace Registry

theorem call_of_async {registry : Registry} {name : String} {f : List Value → Reply}
    (found : registry.find? name = some (.async f)) (args : List Value) :
    registry.call name args = .error (.nestedAsync name) := by
  rw [call_eq, found]

theorem start_of_async {registry : Registry} {name : String} {f : List Value → Reply}
    (found : registry.find? name = some (.async f)) (args : List Value) :
    registry.start name args = .ok (f args) := by
  rw [start_eq, found]

/-- The same functions, whatever the asynchronous ones do once they are started. -/
structure Variant (registry other : Registry) : Prop where
  isAsync_eq : ∀ name, registry.isAsync name = other.isAsync name
  find?_eq : ∀ name, registry.isAsync name = false → registry.find? name = other.find? name

theorem Variant.symm {registry other : Registry} (variant : registry.Variant other) :
    other.Variant registry where
  isAsync_eq name := (variant.isAsync_eq name).symm
  find?_eq name async := by
    rw [← variant.isAsync_eq name] at async
    exact (variant.find?_eq name async).symm

theorem Variant.call_eq {registry other : Registry} (variant : registry.Variant other)
    (name : String) : registry.call name = other.call name := by
  funext args
  cases async : registry.isAsync name with
  | false => rw [Registry.call_eq, Registry.call_eq, variant.find?_eq name async]
  | true =>
    obtain ⟨f, found⟩ := isAsync_eq_true_iff.mp async
    obtain ⟨g, found'⟩ := isAsync_eq_true_iff.mp ((variant.isAsync_eq name).symm.trans async)
    rw [call_of_async found, call_of_async found']

end Registry

namespace Expr

/-- Evaluating an expression comes down to a call in the end: the expression itself, the chosen
branch of a ternary or the last call of a chain. -/
inductive EndsIn (registry : Registry) (scope : Scope) (function : String) (args : List Value) :
    Expr → Prop where
  | call {arguments : List Expr} (values : evalAll registry scope arguments = .ok args) :
      EndsIn registry scope function args (.call function arguments)
  | yes {condition yes no : Expr} {v : Value} (value : eval registry scope condition = .ok v)
      (chosen : v.truthy = true) (ends : EndsIn registry scope function args yes) :
      EndsIn registry scope function args (.ternary condition yes no)
  | no {condition yes no : Expr} {v : Value} (value : eval registry scope condition = .ok v)
      (chosen : v.truthy = false) (ends : EndsIn registry scope function args no) :
      EndsIn registry scope function args (.ternary condition yes no)
  | chain {body : Expr} (ends : EndsIn registry scope function args body) :
      EndsIn registry scope function args (.chain body)

section

variable {registry : Registry} {scope : Scope}

theorem EndsIn.unique {function function' : String} {args args' : List Value} {e : Expr}
    (ends : EndsIn registry scope function args e)
    (ends' : EndsIn registry scope function' args' e) : function = function' ∧ args = args' := by
  induction ends with
  | call values =>
    cases ends' with
    | call values' => exact ⟨rfl, Except.ok.inj (values.symm.trans values')⟩
  | yes value chosen _ ih =>
    cases ends' with
    | yes _ _ other => exact ih other
    | no value' refused _ =>
      cases value.symm.trans value'
      cases chosen.symm.trans refused
  | no value refused _ ih =>
    cases ends' with
    | yes value' chosen _ =>
      cases value.symm.trans value'
      cases chosen.symm.trans refused
    | no _ _ other => exact ih other
  | chain _ ih =>
    cases ends' with
    | chain other => exact ih other

/-- An expression that ends in an asynchronous call starts it as a whole, and has no value inside
another expression. -/
theorem EndsIn.starts {function : String} {args : List Value} {f : List Value → Reply} {e : Expr}
    (ends : EndsIn registry scope function args e)
    (found : registry.find? function = some (.async f)) :
    evalTail registry scope e = .ok (.call (f args)) ∧
      eval registry scope e = .error (.nestedAsync function) := by
  induction ends with
  | call values =>
    have async := Registry.isAsync_eq_true_iff.mpr ⟨f, found⟩
    rw [evalTail, eval, values, ok_bind, ok_bind, async, if_pos rfl,
      Registry.start_of_async found, Registry.call_of_async found]
    exact ⟨rfl, rfl⟩
  | yes value chosen _ ih =>
    rw [evalTail, eval, value, ok_bind, ok_bind, chosen, if_pos rfl, if_pos rfl]
    exact ih
  | no value refused _ ih =>
    rw [evalTail, eval, value, ok_bind, ok_bind, refused, if_neg (by decide), if_neg (by decide)]
    exact ih
  | chain _ ih =>
    rw [evalTail, eval, ih.1, ih.2]
    exact ⟨rfl, rfl⟩

end

/-- Either an expression ends in an asynchronous call, or nothing is started and both ways to
evaluate it give the same. -/
theorem evalTail_cases (registry : Registry) (scope : Scope) : ∀ e : Expr,
    (∃ function args f, EndsIn registry scope function args e ∧
      registry.find? function = some (.async f)) ∨
    evalTail registry scope e = (eval registry scope e).map .value
  | .call function arguments => by
    cases values : evalAll registry scope arguments with
    | error failure =>
      refine Or.inr ?_
      rw [evalTail, eval, values]
      rfl
    | ok args =>
      cases async : registry.isAsync function with
      | true =>
        obtain ⟨f, found⟩ := Registry.isAsync_eq_true_iff.mp async
        exact Or.inl ⟨function, args, f, .call values, found⟩
      | false =>
        refine Or.inr ?_
        rw [evalTail, eval, values, ok_bind, ok_bind, async, if_neg (by decide)]
        cases registry.call function args <;> rfl
  | .ternary condition yes no => by
    cases value : eval registry scope condition with
    | error failure =>
      refine Or.inr ?_
      rw [evalTail, eval, value]
      rfl
    | ok v =>
      cases chosen : v.truthy with
      | true =>
        rcases evalTail_cases registry scope yes with ⟨function, args, f, ends, found⟩ | same
        · exact Or.inl ⟨function, args, f, .yes value chosen ends, found⟩
        · refine Or.inr ?_
          rw [evalTail, eval, value, ok_bind, ok_bind, chosen, if_pos rfl, if_pos rfl]
          exact same
      | false =>
        rcases evalTail_cases registry scope no with ⟨function, args, f, ends, found⟩ | same
        · exact Or.inl ⟨function, args, f, .no value chosen ends, found⟩
        · refine Or.inr ?_
          rw [evalTail, eval, value, ok_bind, ok_bind, chosen, if_neg (by decide),
            if_neg (by decide)]
          exact same
  | .chain body => by
    rcases evalTail_cases registry scope body with ⟨function, args, f, ends, found⟩ | same
    · exact Or.inl ⟨function, args, f, .chain ends, found⟩
    · refine Or.inr ?_
      rw [evalTail, eval, same]
      -- the end of the chain is caught in the same way on both sides
      cases eval registry scope body with
      | ok v => rfl
      | error failure => cases failure <;> rfl
  | .null | .bool _ | .number _ | .text _ | .name _ | .index _ _ | .member _ _ | .guard _
  | .unary _ _ | .binary _ _ _ | .array _ | .object _ => by
    refine Or.inr ?_
    simp only [evalTail]
    cases eval registry scope _ <;> rfl

section

variable {registry other : Registry} {scope : Scope}

theorem agree_of_variant (variant : registry.Variant other) (scope : Scope) (e : Expr) :
    Agree e registry other scope scope where
  lookup _ _ := rfl
  call function _ _ := variant.call_eq function

theorem EndsIn.variant {function : String} {args : List Value} {e : Expr}
    (ends : EndsIn registry scope function args e) (variant : registry.Variant other) :
    EndsIn other scope function args e := by
  have same (x : Expr) := eval_congr x (agree_of_variant variant scope x)
  induction ends with
  | @call arguments values =>
    have list := evalAll_congr arguments fun x _ => agree_of_variant variant scope x
    exact .call (list.symm.trans values)
  | yes value chosen _ ih => exact .yes ((same _).symm.trans value) chosen ih
  | no value refused _ ih => exact .no ((same _).symm.trans value) refused ih
  | chain _ ih => exact .chain ih

theorem evalTail_eq_of_variant (variant : registry.Variant other) {e : Expr}
    (idle : ∀ reply, evalTail registry scope e ≠ .ok (.call reply)) :
    evalTail other scope e = evalTail registry scope e := by
  have value := eval_congr e (agree_of_variant variant scope e)
  rcases evalTail_cases registry scope e with ⟨function, args, f, ends, found⟩ | here
  · exact absurd (ends.starts found).1 (idle (f args))
  rcases evalTail_cases other scope e with ⟨function, args, f, ends, found⟩ | there
  · have async := (variant.isAsync_eq function).trans (Registry.isAsync_eq_true_iff.mpr ⟨f, found⟩)
    obtain ⟨g, found'⟩ := Registry.isAsync_eq_true_iff.mp async
    exact absurd ((ends.variant variant.symm).starts found').1 (idle (g args))
  · rw [there, here, value]

end

def Evaluated.reply? : Evaluated → Option Reply
  | .value _ => none
  | .call reply => some reply

/-- The replies of all calls that evaluating a whole expression started. -/
def replies (result : Except Failure Evaluated) : List Reply :=
  result.toOption.toList.filterMap Evaluated.reply?

theorem calls_evaluateOr (engine : Engine) {scope : Scope} {source : String} {e : Expr}
    (parsed : parse source = .ok e) (fallback : Value) (journal : Journal)
    (current : scope.calls = journal.calls) :
    (engine.evaluateOr scope fallback source journal).2.calls = journal.calls ++
      (replies (evalTail engine.registry scope e)).map fun reply =>
        ⟨some source, .ofReply reply⟩ := by
  have same : { scope with calls := journal.calls } = scope := by rw [← current]
  unfold Engine.evaluateOr Engine.tryEvaluate
  rw [same, parsed]
  cases result : evalTail engine.registry scope e with
  | error failure => simp [Except.mapError, result, replies, Except.toOption, Journal.emit]
  | ok evaluated =>
    cases evaluated with
    | value v =>
      simp [Except.mapError, result, replies, Except.toOption, Evaluated.reply?]
    | call reply =>
      simp [Except.mapError, result, replies, Except.toOption, Evaluated.reply?, Journal.start]

/-- The two ways to evaluate an expression agree on values and failures. They differ only where the
expression ends in a call of an asynchronous function: as a whole it starts that one call, with no
regard to what any other asynchronous function would do, and otherwise nothing is started. -/
theorem evalTail_agrees_with_eval (registry : Registry) (scope : Scope) (e : Expr) :
    (∀ v, evalTail registry scope e = .ok (.value v) ↔ eval registry scope e = .ok v) ∧
    (∀ failure, evalTail registry scope e = .error failure →
      eval registry scope e = .error failure) ∧
    (∀ reply, evalTail registry scope e = .ok (.call reply) →
      ∃ function args f, EndsIn registry scope function args e ∧
        (∀ function' args', EndsIn registry scope function' args' e →
          function' = function ∧ args' = args) ∧
        registry.find? function = some (.async f) ∧ reply = f args ∧
        eval registry scope e = .error (.nestedAsync function) ∧
        ∀ other, registry.Variant other → ∃ g, other.find? function = some (.async g) ∧
          evalTail other scope e = .ok (.call (g args))) ∧
    ((∀ reply, evalTail registry scope e ≠ .ok (.call reply)) →
      ∀ other, registry.Variant other → evalTail other scope e = evalTail registry scope e) ∧
    (∀ other, registry.Variant other → eval other scope e = eval registry scope e) ∧
    (∀ (engine : Engine) (source : String) (fallback : Value) (journal : Journal),
      engine.registry = registry → parse source = .ok e → scope.calls = journal.calls →
        (engine.evaluateOr scope fallback source journal).2.calls = journal.calls ++
          (replies (evalTail registry scope e)).map fun reply =>
            ⟨some source, .ofReply reply⟩) := by
  have unstarted (other : Registry) (variant : registry.Variant other) :
      eval other scope e = eval registry scope e :=
    (eval_congr e (agree_of_variant variant scope e)).symm
  have entered (engine : Engine) (source : String) (fallback : Value) (journal : Journal)
      (same : engine.registry = registry) (parsed : parse source = .ok e)
      (current : scope.calls = journal.calls) :=
    same ▸ calls_evaluateOr engine parsed fallback journal current
  rcases evalTail_cases registry scope e with ⟨function, args, f, ends, found⟩ | same
  · obtain ⟨started, failed⟩ := ends.starts found
    refine ⟨fun v => by simp [started, failed], fun failure => by simp [started], ?_,
      fun idle => absurd started (idle _), unstarted, entered⟩
    intro reply replied
    obtain rfl : f args = reply := by simpa [started] using replied
    refine ⟨function, args, f, ends, fun _ _ ends' => ends'.unique ends, found, rfl, failed, ?_⟩
    intro other variant
    have async := Registry.isAsync_eq_true_iff.mpr ⟨f, found⟩
    obtain ⟨g, found'⟩ :=
      Registry.isAsync_eq_true_iff.mp ((variant.isAsync_eq function).symm.trans async)
    exact ⟨g, found', ((ends.variant variant).starts found').1⟩
  · refine ⟨?_, ?_, ?_, fun idle other variant => evalTail_eq_of_variant variant idle, unstarted,
      entered⟩
    · intro v
      rw [same]
      cases eval registry scope e <;> simp [Except.map]
    · intro failure failed
      rw [same] at failed
      cases value : eval registry scope e with
      | ok v => simp [value, Except.map] at failed
      | error reason => simpa [value, Except.map] using failed
    · intro reply replied
      rw [same] at replied
      cases value : eval registry scope e with
      | ok v => simp [value, Except.map] at replied
      | error reason => simp [value, Except.map] at replied

theorem apart_empty : ∀ key ∈ Fields.names ([] : Fields (List Value → HostResult)),
    key ∉ Fields.names ([] : Fields (List Value → Reply)) :=
  List.forall_mem_nil _

/-- The functions of a host that answers `later` behind a gate. -/
def gated : Registry :=
  Registry.register { apart := apart_empty } "later" (.async fun _ => .waiting "gate")

/-- In `true ? later('a') : nope` the chosen branch is started; elsewhere it would fail. -/
theorem evalTail_starts_chosen_branch :
    (Engine.evaluateOr { registry := gated } { host := {} } .null "true ? later('a') : nope"
      {}).2.calls = [⟨some "true ? later('a') : nope", .waiting "gate"⟩] ∧
    ∃ function, eval gated { host := {} }
      (.ternary (.bool true) (.call "later" [.text "a"]) (.name "nope")) =
        .error (.nestedAsync function) := by
  have parsed : parse "true ? later('a') : nope" =
      .ok (.ternary (.bool true) (.call "later" [.text "a"]) (.name "nope")) := by cbv
  have found : gated.find? "later" = some (.async fun _ => .waiting "gate") :=
    Registry.find?_register_self {} "later" "later" _ rfl
  have started : evalTail gated { host := {} }
      (.ternary (.bool true) (.call "later" [.text "a"]) (.name "nope")) =
        .ok (.call (.waiting "gate")) :=
    (EndsIn.starts (.yes rfl rfl (.call rfl)) found).1
  obtain ⟨_, _, starts, _, _, enters⟩ := evalTail_agrees_with_eval gated { host := {} }
    (.ternary (.bool true) (.call "later" [.text "a"]) (.name "nope"))
  constructor
  · have entered := enters { registry := gated } _ .null {} rfl parsed rfl
    rw [started] at entered
    exact entered
  · obtain ⟨function, _, _, _, _, _, _, failed, _⟩ := starts _ started
    exact ⟨function, failed⟩

end Expr

end LiveConfig
