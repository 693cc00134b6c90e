import LiveConfig.Evaluate
import LiveConfig.Proofs.Numbers.Naturals
import LiveConfig.Proofs.Variables.Building

set_option autoImplicit false

namespace LiveConfig

theorem Fields.distinct_mapValues {α β : Type} (f : α → β) {fields : Fields α}
    (distinct : Fields.Distinct fields) : Fields.Distinct (Fields.mapValues f fields) := by
  rw [Fields.Distinct, Fields.names_mapValues]
  exact distinct

namespace Environment

variable (calls : Calls)

theorem names_numbered (start : Nat) (entries : List Partial) :
    Fields.names (numbered calls start entries) =
      (List.range' start entries.length).map toString := by
  induction entries generalizing start with
  | nil => rfl
  | cons entry rest ih =>
    show toString start :: Fields.names (numbered calls (start + 1) rest) = _
    rw [ih, List.length_cons, List.range'_succ, List.map_cons]

theorem distinct_numbered (start : Nat) (entries : List Partial) :
    Fields.Distinct (numbered calls start entries) := by
  rw [Fields.Distinct, names_numbered]
  exact List.Nodup.map (fun _ _ same => Nat.repr_inj.mp same) List.nodup_range'

theorem find?_numbered (start i : Nat) (entries : List Partial) :
    Fields.find? (toString (start + i)) (numbered calls start entries) =
      entries[i]?.map (Partial.toValue calls) := by
  induction entries generalizing start i with
  | nil => rfl
  | cons entry rest ih =>
    rw [numbered, Fields.find?]
    cases i with
    | zero => exact if_pos rfl
    | succ i =>
      have differ : toString start ≠ toString (start + (i + 1)) := by
        intro same
        have := Nat.repr_inj.mp same
        omega
      rw [if_neg differ, ← Nat.succ_add_eq_add_succ, ih]
      rfl

/-- The entries of the object that shows the variables. -/
def visible (env : Environment) : Fields Value :=
  Fields.putAll (numbered calls 0 env.positional)
    (Fields.mapValues (Partial.toValue calls) env.named)

theorem view_eq (env : Environment) : env.view calls = .object (env.visible calls) := by
  rw [view, Fields.ofList, Fields.putAll_nil (distinct_numbered calls 0 env.positional)]
  rfl

theorem distinct_visible (env : Environment) : Fields.Distinct (env.visible calls) :=
  Fields.distinct_putAll _ _ (distinct_numbered calls 0 env.positional)

/-- The names that are also positions. -/
def clashes (env : Environment) : List String :=
  (Fields.names env.named).filter fun name =>
    name ∈ (List.range env.positional.length).map toString

theorem clashes_eq_nil_iff (env : Environment) : env.clashes = [] ↔
    ∀ i < env.positional.length, toString i ∉ Fields.names env.named := by
  rw [clashes, List.filter_eq_nil_iff]
  constructor
  · intro apart i inside member
    refine apart _ member (decide_eq_true ?_)
    exact List.mem_map_of_mem (List.mem_range.mpr inside)
  · intro apart name member position
    obtain ⟨i, inside, rfl⟩ := List.mem_map.mp (of_decide_eq_true position)
    exact apart i (List.mem_range.mp inside) member

section

variable {env : Environment} (distinct : Fields.Distinct env.named)
include distinct

theorem find?_visible (name : String) : Fields.find? name (env.visible calls) =
    ((env.find? name).map (Partial.toValue calls)).or
      (Fields.find? name (numbered calls 0 env.positional)) := by
  rw [visible, Fields.find?_putAll name _ _ (Fields.distinct_mapValues _ distinct),
    Fields.find?_mapValues]
  rfl

theorem find?_visible_of_find? {name : String} {entry : Partial}
    (found : env.find? name = some entry) :
    Fields.find? name (env.visible calls) = some (entry.toValue calls) := by
  rw [find?_visible calls distinct, found]
  rfl

theorem find?_visible_position {i : Nat} {entry : Partial}
    (placed : env.positional[i]? = some entry) :
    Fields.find? (toString i) (env.visible calls) =
      some (((env.find? (toString i)).getD entry).toValue calls) := by
  have position := find?_numbered calls 0 i env.positional
  rw [Nat.zero_add, placed] at position
  rw [find?_visible calls distinct, position]
  cases env.find? (toString i) <;> rfl

/-- Every variable is shown, except those at positions that are names. -/
theorem length_visible : (env.visible calls).length + env.clashes.length = env.size := by
  have names := congrArg List.length (Fields.names_putAll (numbered calls 0 env.positional) _
    (Fields.distinct_mapValues (Partial.toValue calls) distinct))
  rw [List.length_append, names_numbered, Fields.names_mapValues, ← List.range_eq_range',
    List.length_map, List.length_range, Fields.names, List.length_map] at names
  have parts := List.length_eq_length_filter_add (l := Fields.names env.named)
    (fun name => name ∈ (List.range env.positional.length).map toString)
  have total : (Fields.names env.named).length = env.named.length := List.length_map _
  rw [size, visible, clashes, names, ← total, parts]
  simp only [decide_not]
  omega

end

end Environment

namespace Scope

def environment? (scope : Scope) : Tier → Option Environment
  | .static => scope.statics
  | .dynamic => scope.dynamics

section

variable {scope : Scope} {tier : Tier} {env : Environment}
  (shown : scope.environment? tier = some env) (unhidden : scope.binding? tier.scopeName = none)
include shown unhidden

theorem lookup_scopeName :
    scope.lookup tier.scopeName = .ok (.object (env.visible scope.calls)) := by
  rw [lookup, unhidden, ← env.view_eq]
  cases tier with
  | static =>
    have statics : scope.statics = some env := shown
    simp [builtinName, Tier.scopeName, statics, viewOf]
  | dynamic =>
    have dynamics : scope.dynamics = some env := shown
    simp [builtinName, Tier.scopeName, dynamics, viewOf]

theorem eval_entry (registry : Registry) (position : Expr) :
    (Expr.index (.name tier.scopeName) position).eval registry scope =
      position.eval registry scope >>= (Value.object (env.visible scope.calls)).entry := by
  rw [Expr.eval_index, Expr.eval, lookup_scopeName shown unhidden]
  rfl

theorem eval_entry_text (registry : Registry) (key : String) :
    (Expr.index (.name tier.scopeName) (.text key)).eval registry scope =
      .ok ((Fields.find? key (env.visible scope.calls)).getD .null) := by
  rw [eval_entry shown unhidden, Expr.eval]
  rfl

theorem eval_entry_ofNat (registry : Registry) {i : Nat} (small : i < 1000000000000000) :
    (Expr.index (.name tier.scopeName) (.number (Float.ofNat i))).eval registry scope =
      (Expr.index (.name tier.scopeName) (.text (toString i))).eval registry scope := by
  rw [eval_entry shown unhidden, eval_entry_text shown unhidden, Expr.eval]
  show Except.ok (Value.field _ (String.ofList (Number.text (Float.ofNat i)))) = _
  rw [Number.text_ofNat small]
  rfl

end

/-- A variable by its name and its entry in the object of its tier are the same exactly when the
variable is settled. The entry is always a value; under way, it is what is known so far, with null
for the rest, while the name is an error. -/
theorem name_agrees_with_entry_iff_settled (registry : Registry) (scope : Scope) (tier : Tier)
    {env : Environment} {name : String} {entry : Partial}
    (shown : scope.environment? tier = some env) (distinct : Fields.Distinct env.named)
    (found : env.find? name = some entry)
    (unshadowed : tier = .static → ∀ dynamics ∈ scope.dynamics, dynamics.find? name = none)
    (unhidden : scope.binding? tier.scopeName = none) :
    let bare := Expr.name name
    let viewed := Expr.index (.name tier.scopeName) (.text name)
    viewed.eval registry scope = .ok (entry.toValue scope.calls) ∧
      bare.eval registry scope =
        (if entry.isSettled scope.calls then viewed.eval registry scope
          else .error (.pendingVariable name)) ∧
      (bare.eval registry scope = viewed.eval registry scope ↔
        entry.isSettled scope.calls = true) ∧
      (∀ d, entry = .pending d → d.isSettled scope.calls = false →
        viewed.eval registry scope = .ok .null) ∧
      ∀ whole ∈ [bare, viewed],
        whole.evalTail registry scope = .value <$> whole.eval registry scope := by
  intro bare viewed
  have viewed_eq : viewed.eval registry scope = .ok (entry.toValue scope.calls) := by
    rw [eval_entry_text shown unhidden, Environment.find?_visible_of_find? _ distinct found]
    rfl
  have bound : scope.binding? name = some entry := by
    cases tier with
    | static =>
      have statics : scope.statics = some env := shown
      have hidden : scope.dynamics.bind (·.find? name) = none :=
        Option.bind_eq_none_iff.mpr (unshadowed rfl)
      rw [binding?, hidden, statics]
      exact found
    | dynamic =>
      have dynamics : scope.dynamics = some env := shown
      rw [binding?, dynamics, Option.bind_some, found]
      rfl
  have bare_eq : bare.eval registry scope =
      if entry.isSettled scope.calls then .ok (entry.toValue scope.calls)
      else .error (.pendingVariable name) := by
    rw [Expr.eval, lookup, bound]
  refine ⟨viewed_eq, ?_, ?_, ?_, ?_⟩
  · rw [viewed_eq, bare_eq]
  · rw [viewed_eq, bare_eq]
    cases entry.isSettled scope.calls <;> simp
  · intro d waiting flying
    rw [viewed_eq, waiting, Partial.toValue, Deferred.value?, flying]
    rfl
  · simp only [List.forall_mem_cons]
    exact ⟨rfl, rfl, List.forall_mem_nil _⟩

/-- While the call of `slow` is under way, the name `slow` is an error and `vars['slow']` is null. -/
theorem pending_variable_reads_null :
    let built := Environment.build { registry := Expr.gated } {} .dynamic none none
      (some (.named [("slow", .text "<$ later('lamp') $>")])) {}
    let scope : Scope := { host := {}, dynamics := some built.1, calls := built.2.calls }
    scope.binding? "vars" = none ∧ (built.1.find? "slow").isSome = true ∧
      Expr.parse "slow" = .ok (.name "slow") ∧
      Expr.parse "vars['slow']" = .ok (.index (.name "vars") (.text "slow")) ∧
      (Expr.name "slow").eval Expr.gated scope = .error (.pendingVariable "slow") ∧
      (Expr.index (.name "vars") (.text "slow")).eval Expr.gated scope = .ok .null := by
  intro built scope
  have built_eq : built = ({
      tier := .dynamic
      named := [("slow", .pending ((Deferred.ofCall 0).map (Engine.orFallback .null)))] },
      { calls := [⟨some "later('lamp')", .waiting "gate"⟩] }) := by
    simp only [built, Environment.build, Environment.order, Merged.merge, Merged.add,
      Fields.putAll, Fields.put, List.foldl, List.map, List.nil_append, Environment.extend_eq,
      Environment.evaluateEntry, Walk.evaluateTemplate_later]
    rfl
  simp only [scope, built_eq]
  exact ⟨rfl, rfl, by cbv, by cbv, rfl, rfl⟩

/-- Once the call has its answer, the two are the same. -/
theorem name_agrees_with_entry_lamp :
    let env : Environment := { tier := .static, named := [("lamp", .ready (.bool true))] }
    let scope : Scope := { host := {}, statics := some env }
    scope.environment? .static = some env ∧ Fields.Distinct env.named ∧
      env.find? "lamp" = some (.ready (.bool true)) ∧
      (∀ dynamics ∈ scope.dynamics, dynamics.find? "lamp" = none) ∧
      scope.binding? "svars" = none ∧
      (Expr.name "lamp").eval {} scope =
        (Expr.index (.name "svars") (.text "lamp")).eval {} scope := by
  intro env scope
  have distinct : Fields.Distinct env.named := List.nodup_singleton "lamp"
  have unshadowed : ∀ dynamics ∈ scope.dynamics, dynamics.find? "lamp" = none := nofun
  obtain ⟨_, _, agrees, _⟩ := name_agrees_with_entry_iff_settled {} scope .static rfl distinct
    (show env.find? "lamp" = some (.ready (.bool true)) from rfl) (fun _ => unshadowed) rfl
  exact ⟨rfl, distinct, rfl, unshadowed, rfl, agrees.mpr rfl⟩

end Scope

namespace Environment

theorem shape_build (engine : Engine) (host : HostState) (tier : Tier)
    (statics : Option Environment) (globals locals : Option Declaration) (journal : Journal) :
    let merged := Merged.merge globals locals
    let env := (build engine host tier statics globals locals journal).1
    env.positional.length = merged.positional.length ∧
      Fields.names env.named = Fields.names merged.named := by
  intro merged env
  have arranged := arranged_order merged (Merged.distinct_merge globals locals)
  obtain ⟨length, names⟩ := shape_buildEntries engine host tier statics journal arranged
  refine ⟨length.trans ?_, names.trans ?_⟩
  · simp [order, List.countP_map, Function.comp_def]
  · simp [order, List.filterMap_map, Fields.names]

/-- Which variables of a tier the object of the tier shows: all of them, but an entry without a name
is hidden when its position is the name of another entry. -/
theorem build_shows_all_but_named_positions (engine : Engine) (host : HostState) (tier : Tier)
    (statics : Option Environment) (globals locals : Option Declaration) (journal : Journal)
    (registry : Registry) (scope : Scope)
    (shown : scope.environment? tier =
      some (build engine host tier statics globals locals journal).1)
    (unhidden : scope.binding? tier.scopeName = none) :
    let merged := Merged.merge globals locals
    let env := (build engine host tier statics globals locals journal).1
    let entry (position : Expr) :=
      (Expr.index (.name tier.scopeName) position).eval registry scope
    (env.positional.length = merged.positional.length ∧
      Fields.names env.named = Fields.names merged.named) ∧
    (∃ fields, (Expr.name tier.scopeName).eval registry scope = .ok (.object fields) ∧
      env.view scope.calls = .object fields ∧ Fields.Distinct fields ∧
      fields.length + env.clashes.length = env.size ∧
      (fields.length = env.size ↔
        ∀ i < merged.positional.length, toString i ∉ Fields.names merged.named)) ∧
    (∀ name value, env.find? name = some value →
      entry (.text name) = .ok (value.toValue scope.calls)) ∧
    (∀ (i : Nat) value, env.positional[i]? = some value → entry (.text (toString i)) =
      .ok (((env.find? (toString i)).getD value).toValue scope.calls)) ∧
    ∀ i : Nat, i < 1000000000000000 →
      entry (.number (Float.ofNat i)) = entry (.text (toString i)) := by
  intro merged env entry
  have shape := shape_build engine host tier statics globals locals journal
  have distinct : Fields.Distinct env.named := by
    rw [Fields.Distinct, shape.2]
    exact Merged.distinct_merge globals locals
  have total := length_visible scope.calls distinct
  have text_eq (key : String) : entry (.text key) =
      .ok ((Fields.find? key (env.visible scope.calls)).getD .null) :=
    Scope.eval_entry_text shown unhidden registry key
  refine ⟨shape, ⟨env.visible scope.calls, ?_, env.view_eq _, distinct_visible _ _, total, ?_⟩,
    ?_, ?_, ?_⟩
  · rw [Expr.eval]
    exact Scope.lookup_scopeName shown unhidden
  · have none : (env.visible scope.calls).length = env.size ↔ env.clashes = [] := by
      rw [← List.length_eq_zero_iff]
      omega
    rw [none, clashes_eq_nil_iff, shape.1, shape.2]
  · intro name value found
    rw [text_eq, find?_visible_of_find? _ distinct found]
    rfl
  · intro i value placed
    rw [text_eq, find?_visible_position _ distinct placed]
    rfl
  · intro i small
    exact Scope.eval_entry_ofNat shown unhidden registry small

/-- The global entry `true` at position `0` cannot be read beside a local variable of the name
`0`. -/
theorem positional_entry_hidden :
    let built := build {} {} .dynamic none (some (.positional [.bool true]))
      (some (.named [("0", .bool false)])) {}
    let scope : Scope := { host := {}, dynamics := some built.1 }
    built.1.positional = [.ready (.bool true)] ∧ built.1.size = 2 ∧
      built.1.view [] = .object [("0", .bool false)] ∧
      (Expr.index (.name "vars") (.number (Float.ofNat 0))).eval {} scope = .ok (.bool false) := by
  intro built scope
  have numeral : (Expr.index (.name "vars") (.number (Float.ofNat 0))).eval {} scope =
      (Expr.index (.name "vars") (.text "0")).eval {} scope :=
    Scope.eval_entry_ofNat (show scope.environment? .dynamic = some built.1 from rfl) rfl {}
      (by decide)
  exact ⟨rfl, rfl, rfl, numeral.trans rfl⟩

/-- Beside a local variable of the name `room` it can. -/
theorem build_shows_all_beside_room :
    let built := build {} {} .dynamic none (some (.positional [.bool true]))
      (some (.named [("room", .bool false)])) {}
    let scope : Scope := { host := {}, dynamics := some built.1 }
    scope.environment? .dynamic = some built.1 ∧ scope.binding? "vars" = none ∧
      (Expr.index (.name "vars") (.number (Float.ofNat 0))).eval {} scope = .ok (.bool true) ∧
      (Expr.index (.name "vars") (.text "room")).eval {} scope = .ok (.bool false) := by
  intro built scope
  obtain ⟨_, _, named, positional, numbers⟩ := build_shows_all_but_named_positions {} {} .dynamic
    none (some (.positional [.bool true])) (some (.named [("room", .bool false)])) {} {} scope
    rfl rfl
  refine ⟨rfl, rfl, ?_, named "room" (.ready (.bool false)) rfl⟩
  exact (numbers 0 (by decide)).trans (positional 0 (.ready (.bool true)) rfl)

end Environment

end LiveConfig
