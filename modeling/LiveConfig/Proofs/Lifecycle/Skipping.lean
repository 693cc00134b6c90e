import Mathlib.Data.List.Induction
import LiveConfig.Proofs.Lifecycle.Run

set_option autoImplicit false

namespace LiveConfig

namespace Instance

/-- A render is skipped only by a ready instance whose configuration was rendered. -/
theorem ready_of_shouldUpdate_eq_false {i : Instance} {previous : Option HostState}
    {journal : Journal} (skipped : (i.shouldUpdate previous journal).1 = false) :
    i.readiness = .ready ∧ i.dirty = false := by
  unfold shouldUpdate at skipped
  split at skipped
  · cases skipped
  · next settled =>
    simp only [Bool.or_eq_true, Bool.not_eq_true', not_or, Bool.not_eq_false,
      Bool.not_eq_true] at settled
    exact ⟨of_decide_eq_true settled.1, settled.2⟩

theorem isSome_of_ready {i : Instance} (ready : i.readiness = .ready) :
    i.config.isSome = true ∧ i.statics.isSome = true := by
  obtain ⟨config, _, statics, _⟩ := (Readiness.ofInputs_eq_ready_iff _).mp ready
  exact ⟨config, statics⟩

theorem ready_of_isSome_render {i : Instance} {journal : Journal}
    (rendered : (i.render journal).isSome = true) : i.readiness = .ready := by
  obtain ⟨result, rendered⟩ := Option.isSome_iff_exists.mp rendered
  obtain ⟨source, found, _⟩ := Option.bind_eq_some_iff.mp rendered
  unfold renderSource? at found
  split at found
  · next ready => exact of_decide_eq_true ready
  · cases found

end Instance

/-- Static variables that an action hands in for a generation. -/
def Action.handsIn? (generation : Nat) : Action → Option Environment
  | .finishStatic stamp env => if stamp = generation then some env else none
  | _ => none

namespace Lifecycle

/-- The last render that came about was right after `before`, and no configuration came since. -/
structure SinceRender (engine : Engine) (before after : List Action) : Prop where
  rendered : ((start engine).run before).renders = true
  latest : ∀ middle rest, after = middle ++ .render :: rest →
    ((start engine).run (before ++ .render :: middle)).renders = false
  kept : ∀ action ∈ after, action.configures = false

theorem SinceRender.concat {engine : Engine} {before after : List Action} {action : Action}
    (since : SinceRender engine before after) (kept : action.configures = false)
    (idle : action = .render →
      ((start engine).run (before ++ .render :: after)).renders = false) :
    SinceRender engine before (after ++ [action]) where
  rendered := since.rendered
  latest middle rest split := by
    rcases List.eq_nil_or_concat rest with rfl | ⟨rest, last, rfl⟩
    · obtain ⟨same, final⟩ := List.append_inj' split rfl
      rw [← same]
      exact idle (List.cons.inj final).1
    · rw [List.concat_eq_append, ← List.cons_append, ← List.append_assoc] at split
      exact since.latest middle rest (List.append_inj' split rfl).1
  kept other member := by
    rcases List.mem_append.mp member with earlier | last
    · exact since.kept other earlier
    · rw [List.mem_singleton.mp last]
      exact kept

/-- An instance without the mark of a replaced configuration has none, or has rendered it. -/
theorem sinceRender_of_clean (engine : Engine) (actions : List Action)
    (clean : ((start engine).run actions).subject.dirty = false)
    (configured : ((start engine).run actions).subject.config.isSome = true) :
    ∃ before after, actions = before ++ .render :: after ∧ SinceRender engine before after := by
  induction actions using List.reverseRecOn with
  | nil => cases configured
  | append_singleton actions action ih =>
    -- Every action but a new configuration and a render that comes about leaves the split as it is.
    have extended (clean : ((start engine).run actions).subject.dirty = false)
        (configured : ((start engine).run actions).subject.config.isSome = true)
        (kept : action.configures = false)
        (idle : action = .render → ((start engine).run actions).renders = false) :
        ∃ before after, actions ++ [action] = before ++ .render :: after ∧
          SinceRender engine before after := by
      obtain ⟨before, after, rfl, since⟩ := ih clean configured
      exact ⟨before, after ++ [action], by simp, since.concat kept idle⟩
    rw [run_concat] at clean configured
    generalize final : (((start engine).run actions).step action).subject = after
      at clean configured
    have effect := effect_step ((start engine).run actions) action
    rw [final] at effect
    cases effect with
    | configured config valid => cases clean
    | refused config error invalid =>
      refine extended clean configured ?_ (by simp)
      simp [Action.configures, invalid, Except.isOk, Except.toBool]
    | rendered success =>
      exact ⟨actions, [], rfl, success, fun middle rest split => by simp at split, by simp⟩
    | unrendered failure => exact extended clean configured rfl fun _ => failure
    | _ => exact extended clean configured rfl (by simp)

theorem statics_run (s : Lifecycle) (actions : List Action) (env : Environment)
    (held : s.subject.statics = some env)
    (kept : ∀ action ∈ actions, action.replaces = false) :
    (s.run actions).subject.statics =
      some ((actions.filterMap (Action.handsIn? s.subject.generation)).getLast?.getD env) := by
  induction actions generalizing s env with
  | nil => exact held
  | cons action rest ih =>
    have idle := kept action List.mem_cons_self
    have effect := effect_step s action
    have stamped := effect.generation_eq
    rw [idle] at stamped
    have next : (s.step action).subject.statics =
        some ((action.handsIn? s.subject.generation).getD env) := by
      generalize (s.step action).subject = after at effect
      cases effect with
      | configured config valid =>
        simp [Action.replaces, Action.configures, valid, Except.isOk, Except.toBool] at idle
      | globals globals => cases idle
      | installed env => simp only [Action.handsIn?, if_true, Option.getD_some]
      | discarded generation env stale =>
        simp only [Action.handsIn?, stale, if_false, Option.getD_none, held]
      | prepared build started env missing begun settled =>
        rw [missing] at held
        cases held
      | _ => exact held
    have later : ∀ other ∈ rest, other.replaces = false := fun other member =>
      kept other (List.mem_cons_of_mem _ member)
    rw [run_cons, ih _ _ next later, stamped]
    cases handed : action.handsIn? s.subject.generation with
    | none => simp [handed]
    | some fresh => simp [handed, List.getLast?_cons]

/-- Static variables that are gone come back only by a preparation or a build of the generation. -/
theorem restored_of_isSome_statics (s : Lifecycle) (actions : List Action)
    (gone : s.subject.statics = none)
    (back : (s.run actions).subject.statics.isSome = true) :
    ∃ action ∈ actions, action = .prepare ∨
      (action.handsIn? (s.run actions).subject.generation).isSome = true := by
  induction actions using List.reverseRecOn with
  | nil =>
    rw [run_nil, gone] at back
    cases back
  | append_singleton actions action ih =>
    rw [run_concat] at back ⊢
    rcases (effect_step (s.run actions) action).statics_cases with
      none | ⟨kept, stamped⟩ | ⟨env, _, stamped, rfl | ⟨_, _, rfl, _⟩⟩
    · rw [none] at back
      cases back
    · obtain ⟨other, member, restores⟩ := ih (kept ▸ back)
      exact ⟨other, List.mem_append_left _ member, stamped ▸ restores⟩
    · refine ⟨_, List.mem_append_right _ (List.mem_singleton.mpr rfl), Or.inr ?_⟩
      simp only [stamped, Action.handsIn?, if_true, Option.isSome_some]
    · exact ⟨_, List.mem_append_right _ (List.mem_singleton.mpr rfl), Or.inl rfl⟩

theorem restored_of_setGlobals (s : Lifecycle) (first rest : List Action) (globals : Globals)
    (back : (s.run (first ++ .setGlobals globals :: rest)).subject.statics.isSome = true) :
    ∃ action ∈ rest, action = .prepare ∨ (action.handsIn?
      (s.run (first ++ .setGlobals globals :: rest)).subject.generation).isSome = true := by
  have resumed : s.run (first ++ .setGlobals globals :: rest) =
      (s.run (first ++ [.setGlobals globals])).run rest := by
    rw [← run_append, List.append_assoc, List.singleton_append]
  rw [resumed] at back ⊢
  refine restored_of_isSome_statics _ rest ?_ back
  rw [run_concat]
  rfl

theorem render_keeps (s : Lifecycle) :
    (s.step .render).subject.config = s.subject.config ∧
    (s.step .render).subject.globals = s.subject.globals ∧
    (s.step .render).subject.statics = s.subject.statics := by
  have effect := effect_step s .render
  generalize (s.step .render).subject = final at effect
  cases effect <;> exact ⟨rfl, rfl, rfl⟩

section

variable {engine : Engine} {before after : List Action} (since : SinceRender engine before after)
include since

theorem SinceRender.config_eq : ((start engine).run (before ++ .render :: after)).subject.config =
    ((start engine).run before).subject.config := by
  rw [run_append, run_cons, config_run _ after since.kept, (render_keeps _).1]

theorem SinceRender.statics_eq (quiet : ∀ action ∈ after, action.globals? = none) :
    ∃ env, ((start engine).run before).subject.statics = some env ∧
      ((start engine).run (before ++ .render :: after)).subject.statics =
        some ((after.filterMap (Action.handsIn?
          ((start engine).run (before ++ .render :: after)).subject.generation)).getLast?.getD
            env) := by
  obtain ⟨env, rendered⟩ := Option.isSome_iff_exists.mp
    (Instance.isSome_of_ready (Instance.ready_of_isSome_render since.rendered)).2
  refine ⟨env, rendered, ?_⟩
  have kept : ∀ action ∈ after, action.replaces = false := fun action member => by
    simp [Action.replaces, since.kept action member, quiet action member]
  have none : after.countP Action.replaces = 0 :=
    List.countP_eq_zero.mpr fun action member => by simp [kept action member]
  have stamp := generation_run (((start engine).run before).step .render) after
  rw [none, Nat.add_zero] at stamp
  rw [run_append, run_cons, stamp]
  exact statics_run _ after env ((render_keeps _).2.2.trans rendered) kept

end

theorem globals_since_render (engine : Engine) (before after : List Action) :
    ((start engine).run (before ++ .render :: after)).subject.globals =
      (after.filterMap Action.globals?).getLast?.getD
        ((start engine).run before).subject.globals := by
  rw [run_append, run_cons, globals_run, (render_keeps _).2.1]

/-- What a skipped render is sound for. -/
theorem basis_of_shouldUpdate_eq_false (engine : Engine) (actions : List Action)
    (previous : Option HostState)
    (skipped : (((start engine).run actions).subject.shouldUpdate previous
      ((start engine).run actions).journal).1 = false) :
    ∃ before after, actions = before ++ .render :: after ∧ SinceRender engine before after ∧
      let used := ((start engine).run before).subject
      let held := ((start engine).run actions).subject
      held.config = used.config ∧
      held.globals = (after.filterMap Action.globals?).getLast?.getD used.globals ∧
      ((∀ action ∈ after, action.globals? = none) →
        ∃ env, used.statics = some env ∧ held.statics =
          some ((after.filterMap (Action.handsIn? held.generation)).getLast?.getD env)) ∧
      (∀ first globals rest, after = first ++ .setGlobals globals :: rest →
        ∃ action ∈ rest, action = .prepare ∨
          (action.handsIn? held.generation).isSome = true) ∧
      ((∀ action ∈ after, action.globals? = none ∧ action.handsIn? held.generation = none) →
        held.globals = used.globals ∧ held.statics = used.statics) := by
  obtain ⟨ready, clean⟩ := Instance.ready_of_shouldUpdate_eq_false skipped
  obtain ⟨configured, built⟩ := Instance.isSome_of_ready ready
  obtain ⟨before, after, rfl, since⟩ := sinceRender_of_clean engine actions clean configured
  have globals := globals_since_render engine before after
  refine ⟨before, after, rfl, since, since.config_eq, globals, since.statics_eq, ?_, ?_⟩
  · intro first brought rest split
    have whole : before ++ .render :: after =
        before ++ .render :: first ++ .setGlobals brought :: rest := by
      rw [split, List.append_assoc, List.cons_append]
    rw [whole] at built ⊢
    exact restored_of_setGlobals _ _ rest brought built
  · intro quiet
    have noGlobals : after.filterMap Action.globals? = [] :=
      List.filterMap_eq_nil_iff.mpr fun action member => (quiet action member).1
    have noStatics : after.filterMap (Action.handsIn?
        ((start engine).run (before ++ .render :: after)).subject.generation) = [] :=
      List.filterMap_eq_nil_iff.mpr fun action member => (quiet action member).2
    obtain ⟨env, rendered, statics⟩ := since.statics_eq fun action member => (quiet action member).1
    rw [noStatics] at statics
    rw [noGlobals] at globals
    exact ⟨globals, statics.trans rendered.symm⟩

/-- The global variables are replaced after a render, and the static ones are built anew. -/
def renewed : List Action := [
  .setConfig { entities := some (.array [.null]), row := some .null },
  .setHost {}, .loadHelpers, .prepare, .render,
  .setGlobals { dynamicVariables := some (.positional [.bool true]) }, .prepare]

theorem basis_renewed :
    (((start {}).run renewed).subject.shouldUpdate (some {}) ((start {}).run renewed).journal).1 =
      false ∧
    ∃ before after, renewed = before ++ .render :: after ∧ SinceRender {} before after ∧
      ((start {}).run renewed).subject.globals =
        (after.filterMap Action.globals?).getLast?.getD
          ((start {}).run before).subject.globals := by
  obtain ⟨before, after, split, since, _, globals, _⟩ :=
    basis_of_shouldUpdate_eq_false {} renewed (some {}) rfl
  exact ⟨rfl, before, after, split, since, globals⟩

/-- A skipped render may have been made from other global variables. -/
theorem not_globals_of_shouldUpdate_eq_false :
    ¬ ∀ (actions : List Action) (previous : HostState),
      (((start {}).run actions).subject.shouldUpdate (some previous)
        ((start {}).run actions).journal).1 = false →
      ∃ before after, actions = before ++ .render :: after ∧ SinceRender {} before after ∧
        ((start {}).run actions).subject.globals = ((start {}).run before).subject.globals := by
  intro sound
  obtain ⟨before, after, split, since, same⟩ := sound renewed {} rfl
  have known : before = renewed.take 4 := by
    rcases before with _ | ⟨a, _ | ⟨b, _ | ⟨c, _ | ⟨d, _ | ⟨e, _ | ⟨f, _ | ⟨g, more⟩⟩⟩⟩⟩⟩⟩ <;>
      simp_all [renewed]
  rw [known] at same
  cases congrArg Globals.dynamicVariables same

end Lifecycle

end LiveConfig
