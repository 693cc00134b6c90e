import LiveConfig.Proofs.Lifecycle.Arrival
import LiveConfig.Proofs.Rewriting.Sources

set_option autoImplicit false

namespace LiveConfig

/-- Hosts in which the listed entities have the same states. -/
def HostState.AgreeOn (listed : List String) (old new : HostState) : Prop :=
  ∀ k ∈ listed, old.state? k = new.state? k

/-- The same scope against another host. -/
def Scope.against (scope : Scope) (host : HostState) : Scope :=
  { scope with host }

namespace Expr

/-- The expression reads the host as `states['k']` only, with `k` in the list. -/
inductive Confined (listed : List String) : Expr → Prop where
  | null : Confined listed .null
  | bool (b : Bool) : Confined listed (.bool b)
  | number (x : Float) : Confined listed (.number x)
  | text (s : String) : Confined listed (.text s)
  | name {s : String} (states : s ≠ "states") (user : s ≠ "user") (hass : s ≠ "hass") :
      Confined listed (.name s)
  | entity {k : String} (member : k ∈ listed) :
      Confined listed (.index (.name "states") (.text k))
  | call {function : String} {arguments : List Expr} (each : ∀ a ∈ arguments, Confined listed a) :
      Confined listed (.call function arguments)
  | index {container position : Expr} (first : Confined listed container)
      (second : Confined listed position) : Confined listed (.index container position)
  | member {receiver : Expr} (property : String) (inner : Confined listed receiver) :
      Confined listed (.member receiver property)
  | guard {receiver : Expr} (inner : Confined listed receiver) : Confined listed (.guard receiver)
  | chain {body : Expr} (inner : Confined listed body) : Confined listed (.chain body)
  | unary (op : UnaryOp) {operand : Expr} (inner : Confined listed operand) :
      Confined listed (.unary op operand)
  | binary (op : BinaryOp) {left right : Expr} (first : Confined listed left)
      (second : Confined listed right) : Confined listed (.binary op left right)
  | ternary {condition yes no : Expr} (first : Confined listed condition)
      (second : Confined listed yes) (third : Confined listed no) :
      Confined listed (.ternary condition yes no)
  | array {items : List Expr} (each : ∀ e ∈ items, Confined listed e) :
      Confined listed (.array items)
  | object {fields : List (String × Expr)} (each : ∀ field ∈ fields, Confined listed field.2) :
      Confined listed (.object fields)

section

variable {registry : Registry} {scope scope' : Scope}

theorem evalAll_eq_of_each {items : List Expr}
    (each : ∀ e ∈ items, eval registry scope e = eval registry scope' e) :
    evalAll registry scope items = evalAll registry scope' items := by
  induction items with
  | nil => rw [evalAll, evalAll]
  | cons e rest ih =>
    obtain ⟨head, tail⟩ := List.forall_mem_cons.mp each
    rw [evalAll, evalAll, head, ih tail]

theorem evalFields_eq_of_each {fields : List (String × Expr)}
    (each : ∀ field ∈ fields, eval registry scope field.2 = eval registry scope' field.2) :
    evalFields registry scope fields = evalFields registry scope' fields := by
  induction fields with
  | nil => rw [evalFields, evalFields]
  | cons field rest ih =>
    obtain ⟨head, tail⟩ := List.forall_mem_cons.mp each
    rw [evalFields, evalFields, head, ih tail]

end

section

variable {listed : List String} {old new : HostState} {e : Expr}

variable (agree : old.AgreeOn listed new) (registry : Registry) (scope : Scope)
include agree

/-- A listed entity is read alike, without the object of all states or through what hides it. -/
theorem eval_entity_eq {k : String} (member : k ∈ listed) :
    eval registry (scope.against old) (.index (.name "states") (.text k)) =
      eval registry (scope.against new) (.index (.name "states") (.text k)) := by
  have same := agree k member
  have binding (host : HostState) (name : String) :
      (scope.against host).binding? name = scope.binding? name := rfl
  cases bound : scope.binding? "states" with
  | none =>
    have entry (host : HostState) : shortcut? (scope.against host) (.name "states") (.text k) =
        some ((host.state? k).getD .null) := by
      simp only [shortcut?, Scope.entry?, binding, bound, and_self, if_true]
      rfl
    simp only [eval, ok_bind, entry, same]
  | some node =>
    have hidden (host : HostState) :
        shortcut? (scope.against host) (.name "states") (.text k) = none := by
      simp [shortcut?, Scope.entry?, binding, bound]
    have looked : (scope.against old).lookup "states" = (scope.against new).lookup "states" := by
      simp only [Scope.lookup, binding, bound]
      rfl
    simp only [eval, ok_bind, hidden, looked]

/-- Only the listed entities can be seen in the value of a confined expression. -/
theorem Confined.eval_eq (confined : e.Confined listed) :
    eval registry (scope.against old) e = eval registry (scope.against new) e := by
  induction confined with
  | null | bool | number | text => rw [eval, eval]
  | @name s states user hass =>
    rw [eval, eval]
    simp only [Scope.lookup, Scope.builtinName, states, user, hass, if_false]
    rfl
  | entity member => exact eval_entity_eq agree registry scope member
  | call each ih => rw [eval, eval, evalAll_eq_of_each ih]
  | index first second ihFirst ihSecond =>
    rw [eval_index, eval_index, ihFirst, ihSecond]
  | member property inner ih => rw [eval, eval, ih]
  | guard inner ih => rw [eval, eval, ih]
  | chain inner ih => rw [eval, eval, ih]
  | unary op inner ih => rw [eval, eval, ih]
  | binary op first second ihFirst ihSecond =>
    cases op with
    | logical op => rw [eval, eval, ihFirst, ihSecond]
    | arithmetic op => rw [eval, eval, ihFirst, ihSecond]
    | comparison op => rw [eval, eval, ihFirst, ihSecond]
    | equal => rw [eval, eval, ihFirst, ihSecond]
    | unequal => rw [eval, eval, ihFirst, ihSecond]
  | ternary first second third ihFirst ihSecond ihThird =>
    rw [eval, eval, ihFirst, ihSecond, ihThird]
  | array each ih => rw [eval, eval, evalAll_eq_of_each ih]
  | object each ih => rw [eval, eval, evalFields_eq_of_each ih]

theorem Confined.evalTail_eq (confined : e.Confined listed) :
    evalTail registry (scope.against old) e = evalTail registry (scope.against new) e := by
  have value := confined.eval_eq agree registry scope
  induction confined with
  | call each =>
    have args := evalAll_eq_of_each fun a member => (each a member).eval_eq agree registry scope
    rw [evalTail, evalTail, args]
  | ternary first second third _ ihSecond ihThird =>
    rw [evalTail, evalTail, first.eval_eq agree registry scope,
      ihSecond (second.eval_eq agree registry scope),
      ihThird (third.eval_eq agree registry scope)]
  | chain inner ih => rw [evalTail, evalTail, ih (inner.eval_eq agree registry scope)]
  | null | bool | number | text | name | entity | index | member | guard | unary | binary | array
  | object => simp only [evalTail, value]

end

end Expr

section

variable {listed : List String} {old new : HostState} (agree : old.AgreeOn listed new)
include agree

theorem Engine.draft_against (engine : Engine) (scope : Scope) (mode : Mode) (template : String)
    (confined : ∀ e, Template.Evaluates mode template e → e.Confined listed) :
    engine.draft (scope.against old) mode template =
      engine.draft (scope.against new) mode template := by
  apply engine.draft_eq_of_sources
  intro source inside
  unfold tryEvaluate
  cases parsed : Expr.parse source with
  | error e => rfl
  | ok e => exact (confined e ⟨source, inside, parsed⟩).evalTail_eq agree engine.registry scope

variable (engine : Engine) (opens : String → HostResult)

theorem Walk.forecast_against (scope : Scope) {tree : Value}
    (confined : ∀ e, tree.Embeds e → e.Confined listed) :
    forecast engine opens (scope.against old) tree =
      forecast engine opens (scope.against new) tree := by
  apply List.foldl_ext
  intro walk leaf member
  have drafted := engine.draft_against agree { scope with output := some walk.tree, calls := [] }
    .structural leaf.2 fun e evaluated =>
      confined e ⟨leaf, member, Template.evaluates_structural_iff.mp evaluated⟩
  exact congrArg (fun draft => walk.write [] leaf.1 (draft.promise opens)) drafted

namespace Environment

theorem foreseeEntry_against (scope : Scope) {value : Value}
    (confined : ∀ e, value.Declares e → e.Confined listed) :
    foreseeEntry engine opens (scope.against old) value =
      foreseeEntry engine opens (scope.against new) value := by
  cases value with
  | text template =>
    have drafted := engine.draft_against agree { scope with calls := [] } .declaration template
      confined
    exact congrArg (fun draft => (draft.promise opens).node) drafted
  | array items =>
    exact congrArg foreseeEntry.landing (Walk.forecast_against agree engine opens scope confined)
  | object fields =>
    exact congrArg foreseeEntry.landing (Walk.forecast_against agree engine opens scope confined)
  | null => rfl
  | bool b => rfl
  | number x => rfl

theorem forecast_against (statics : Option Environment) {globals locals : Option Declaration}
    (confined : ∀ entry ∈ order (Merged.merge globals locals), ∀ e,
      entry.2.Declares e → e.Confined listed) :
    forecast engine opens old statics globals locals =
      forecast engine opens new statics globals locals := by
  apply List.foldl_ext
  intro soFar entry member
  have scope_eq (host : HostState) :
      entryScope host statics soFar = (entryScope old statics soFar).against host := by
    unfold entryScope
    cases soFar.tier <;> rfl
  have built := foreseeEntry_against agree engine opens (entryScope old statics soFar)
    (confined entry member)
  rw [← scope_eq, ← scope_eq] at built
  simp only [foresee, built]

end Environment

theorem RenderSource.forecast_against (source : RenderSource) (dynamics : Environment)
    (body : ∀ e, source.body.Embeds e → e.Confined listed)
    (style : ∀ e, source.style.Embeds e → e.Confined listed) :
    ({ source with host := old } : RenderSource).forecast opens dynamics =
      ({ source with host := new } : RenderSource).forecast opens dynamics := by
  have body_eq := Walk.forecast_against agree source.engine opens (source.scope dynamics) body
  have style_eq := Walk.forecast_against agree source.engine opens (source.scope dynamics) style
  exact congrArg₂ (fun body style : Walk => Rendered.mk source.kind (body.tree.read .unread)
    (style.tree.read .unread)) body_eq style_eq

end

end LiveConfig
