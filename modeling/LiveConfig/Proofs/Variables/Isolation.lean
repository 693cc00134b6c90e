import LiveConfig.Proofs.Rewriting.Counterparts
import LiveConfig.Proofs.Variables.Building

set_option autoImplicit false

namespace LiveConfig

namespace Scope

/-- Nothing is under way in the variables, and no tree is being rewritten. -/
structure Landed (scope : Scope) : Prop where
  statics : ∀ env, scope.statics = some env → env.calls = []
  dynamics : ∀ env, scope.dynamics = some env → env.calls = []
  output : scope.output = none

theorem Landed.mirrors {scope : Scope} (landed : scope.Landed) (calls calls' : Calls) :
    Mirrors { scope with calls := calls } { scope with calls := calls' } := by
  have mirrors := mirrors_mapEntries { scope with calls := calls } id calls' landed.statics
    (fun env held entry member => Partial.shown_of_calls_eq_nil
      (Environment.calls_of_mem_entries (landed.dynamics env held) member) calls' calls)
    fun tree held => by
      rw [landed.output] at held
      cases held
  have same : Scope.mapEntries id calls' { scope with calls := calls } =
      { scope with calls := calls' } := by
    have dynamics : scope.dynamics.map (Environment.mapEntries id) = scope.dynamics := by
      cases scope.dynamics with
      | none => rfl
      | some env => exact congrArg some env.mapEntries_id
    simp only [Scope.mapEntries, dynamics, Option.map_id_apply]
  rw [same] at mirrors
  exact mirrors

end Scope

namespace Walk

/-- A walk in a scope that has landed is the walk in an empty journal, behind other calls. -/
theorem run_behind (engine : Engine) {scope : Scope} (landed : scope.Landed) (tree : Value)
    (base : Journal) :
    let alone := run engine scope tree {}
    run engine scope tree base = (alone.1.shift base.calls.length, base.append alone.2) ∧
      alone.2.calls.Unobserved ∧ alone.1.tree.Underway alone.2.calls := by
  intro alone
  have mirrors := (landed.mirrors base.calls []).on fun _ => True
  have counterparts : Counterparts base {} (run engine scope tree base) alone :=
    counterparts_run engine mirrors fun _ _ _ _ => trivial
  generalize run engine scope tree base = walked, alone = first at counterparts
  cases counterparts with
  | intro walk own unobserved underway =>
    have start : (walk.shift ({} : Journal).calls.length, Journal.append {} own) = (walk, own) := by
      rw [Journal.empty_append]
      exact congrArg (Prod.mk · own) walk.shift_zero
    rw [start]
    exact ⟨rfl, unobserved, underway⟩

end Walk

namespace Environment

variable {host : HostState} {statics : Environment}

theorem tier_extend (engine : Engine) (host : HostState) (statics : Option Environment)
    (state : Environment × Journal) (entry : Option String × Value) :
    (extend engine host statics state entry).1.tier = state.1.tier := by
  obtain ⟨name, value⟩ := entry
  cases name <;> rfl

theorem shift_add (n : Nat) (env : Environment) (name : Option String) (entry : Partial) :
    (env.add name entry).shift n = (env.shift n).add name (entry.shift n) := by
  cases name with
  | none => simp [add, push, shift, mapEntries]
  | some name => simp [add, insert, shift, mapEntries, Fields.mapValues_put]

theorem extend_behind (engine : Engine) (landed : statics.calls = []) {soFar : Environment}
    (dynamic : soFar.tier = .dynamic) (base own : Journal) (entry : Option String × Value) :
    let next := extend engine host (some statics) (soFar, own) entry
    extend engine host (some statics) (soFar.shift base.calls.length, base.append own) entry =
      (next.1.shift base.calls.length, base.append next.2) := by
  have scope_eq (env : Environment) (tier : env.tier = .dynamic) :
      entryScope host (some statics) env =
        { host, statics := some statics, dynamics := some env } := by
    rw [entryScope, tier]
  have mirrors := Scope.mirrors_mapEntries
    { host, statics := some statics, dynamics := some soFar, calls := own.calls }
    (Partial.shift base.calls.length) (base.calls ++ own.calls)
    (fun env held => Option.some.inj held ▸ landed)
    (fun env _ entry _ => entry.shown_shift base.calls own.calls)
    (fun tree held => by cases held)
  have counterparts : Counterparts own (base.append own)
      (evaluateEntry engine (entryScope host (some statics) soFar) entry.2 own)
      (evaluateEntry engine (entryScope host (some statics) (soFar.shift base.calls.length)) entry.2
        (base.append own)) := by
    rw [scope_eq soFar dynamic, scope_eq (soFar.shift base.calls.length) dynamic]
    exact counterparts_entry engine (mirrors.on fun _ => True) fun _ _ => trivial
  dsimp only
  rw [extend_eq, extend_eq]
  generalize evaluateEntry engine (entryScope host (some statics) soFar) entry.2 own = here,
    evaluateEntry engine (entryScope host (some statics) (soFar.shift base.calls.length)) entry.2
      (base.append own) = there at counterparts
  cases counterparts with
  | intro outcome fresh unobserved started =>
    have length : (base.append own).calls.length = base.calls.length + own.calls.length :=
      List.length_append
    have appended : (base.append own).append fresh = base.append (own.append fresh) := by
      simp only [Journal.append, List.append_assoc]
    have built (first : Journal) :
        Partial.ofOutcome (first.append fresh).calls (outcome.shift first.calls.length) =
          (Partial.ofOutcome fresh.calls outcome).shift first.calls.length :=
      Partial.ofOutcome_shift first.calls fresh.calls outcome
    dsimp only
    rw [built, built, shift_add, Partial.shift_shift, length, appended]

/-- Dynamic variables on static ones that have landed are those in an empty journal, behind other
calls. -/
theorem build_behind (engine : Engine) (host : HostState) (landed : statics.calls = [])
    (globals locals : Option Declaration) (base : Journal) :
    let alone := build engine host .dynamic (some statics) globals locals {}
    build engine host .dynamic (some statics) globals locals base =
      (alone.1.shift base.calls.length, base.append alone.2) := by
  have prefixes (entries : List (Option String × Value)) (soFar : Environment) (own : Journal)
      (dynamic : soFar.tier = .dynamic) :
      let alone := entries.foldl (extend engine host (some statics)) (soFar, own)
      entries.foldl (extend engine host (some statics))
          (soFar.shift base.calls.length, base.append own) =
        (alone.1.shift base.calls.length, base.append alone.2) := by
    induction entries generalizing soFar own with
    | nil => rfl
    | cons entry rest ih =>
      dsimp only [List.foldl_cons]
      rw [extend_behind engine landed dynamic base own entry]
      exact ih _ _ ((tier_extend engine host (some statics) (soFar, own) entry).trans dynamic)
  have whole := prefixes (order (Merged.merge globals locals)) { tier := .dynamic } {} rfl
  rw [base.append_empty] at whole
  exact whole

theorem calls_shift (n : Nat) (env : Environment) :
    (env.shift n).calls = env.calls.map (n + ·) := by
  rw [calls, calls, shift, entries_mapEntries, List.flatMap_map, List.map_flatMap]
  simp only [Partial.calls_shift]

theorem read_outcome_shift {calls : Calls} {env : Environment} (underway : env.Underway calls)
    (n : Nat) (answers : Answers) :
    (env.shift n).outcome.read answers = env.outcome.read fun id => answers (n + id) := by
  have empty : (env.shift n).calls.isEmpty = env.calls.isEmpty := by
    rw [calls_shift, List.isEmpty_map]
  unfold outcome
  rw [empty]
  by_cases idle : env.calls.isEmpty = true
  · rw [if_pos idle, if_pos idle]
    refine (env.mapEntries_congr _ id ?_).trans env.mapEntries_id
    intro entry member
    have landed := (underway entry member).calls_eq_nil_iff.mp
      (calls_of_mem_entries (List.isEmpty_iff.mp idle) member)
    refine Partial.mapFlying_eq_self fun d flies => ?_
    rw [landed] at flies
    cases flies
  · rw [if_neg idle, if_neg idle]
    show (env.shift n).read answers = env.read _
    rw [read, shift, mapEntries_mapEntries, read]
    exact env.mapEntries_congr _ _ fun entry _ =>
      congrArg Partial.ready (entry.read_shift n answers)

end Environment

end LiveConfig
