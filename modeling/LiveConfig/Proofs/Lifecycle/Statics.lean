import Mathlib.Data.List.Induction
import LiveConfig.Proofs.Lifecycle.Run

set_option autoImplicit false

namespace LiveConfig.Lifecycle

/-- Static variables are handed in only as the settled outcome of a build of this instance. -/
def Allows (s : Lifecycle) : Action → Prop
  | .finishStatic generation env =>
    ∃ build ∈ s.builds,
      build.generation = generation ∧ build.environment? s.journal.calls = some env
  | _ => True

/-- A run in which every action is allowed at its moment. -/
def Genuine (s : Lifecycle) : List Action → Prop
  | [] => True
  | action :: rest => s.Allows action ∧ (s.step action).Genuine rest

theorem genuine_append (s : Lifecycle) (first second : List Action) :
    s.Genuine (first ++ second) ↔ s.Genuine first ∧ (s.run first).Genuine second := by
  induction first generalizing s with
  | nil => simp [Genuine]
  | cons action rest ih => simp only [List.cons_append, Genuine, ih, run_cons, and_assoc]

theorem genuine_concat (s : Lifecycle) (actions : List Action) (action : Action) :
    s.Genuine (actions ++ [action]) ↔ s.Genuine actions ∧ (s.run actions).Allows action := by
  simp only [genuine_append, Genuine, and_true]

/-- A build is begun right after the given actions. -/
def Begins (engine : Engine) (before : List Action) (build : StaticBuild) : Prop :=
  ∃ later, ((start engine).run before).subject.beginStatic ((start engine).run before).journal =
    some (build, later)

theorem builds_step (s : Lifecycle) (action : Action) :
    (s.step action).builds = s.builds ∨
      ∃ build later, action = .beginStatic ∧ s.subject.beginStatic s.journal = some (build, later) ∧
        (s.step action).builds = s.builds ++ [build] := by
  cases action with
  | setConfig config =>
    refine Or.inl ?_
    simp only [step]
    split <;> rfl
  | beginStatic =>
    cases begun : s.subject.beginStatic s.journal with
    | none => exact Or.inl (by simp only [step, begun])
    | some pair => exact Or.inr ⟨pair.1, pair.2, rfl, rfl, by simp only [step, begun]⟩
  | render =>
    refine Or.inl ?_
    simp only [step]
    split <;> rfl
  | _ => exact Or.inl rfl

theorem generation_eq_iff_of_begins {engine : Engine} {before : List Action} (after : List Action)
    {build : StaticBuild} (begun : Begins engine before build) :
    build.generation =
        ((start engine).run (before ++ .beginStatic :: after)).subject.generation ↔
      ∀ action ∈ after, action.replaces = false := by
  obtain ⟨later, begun⟩ := begun
  obtain ⟨_, _, _, _, stamped, _⟩ := Instance.beginStatic_eq_some begun
  have idle : Action.replaces .beginStatic = false := rfl
  have counted := generation_run ((start engine).run before) (.beginStatic :: after)
  rw [List.countP_cons, idle] at counted
  rw [stamped, run_append, counted]
  constructor
  · intro same
    have none : after.countP Action.replaces = 0 := by
      simp only [Bool.false_eq_true, if_false] at same
      omega
    simpa using List.countP_eq_zero.mp none
  · intro kept
    have none : after.countP Action.replaces = 0 :=
      List.countP_eq_zero.mpr fun action member => by simp [kept action member]
    simp [none]

theorem begins_of_mem_builds (engine : Engine) (actions : List Action) (build : StaticBuild)
    (recorded : build ∈ ((start engine).run actions).builds) :
    ∃ before after, actions = before ++ .beginStatic :: after ∧ Begins engine before build := by
  induction actions using List.reverseRecOn with
  | nil => cases recorded
  | append_singleton actions action ih =>
    have extended (known : build ∈ ((start engine).run actions).builds) :
        ∃ before after, actions ++ [action] = before ++ .beginStatic :: after ∧
          Begins engine before build := by
      obtain ⟨before, after, split, begun⟩ := ih known
      exact ⟨before, after ++ [action], by simp [split], begun⟩
    rw [run_concat] at recorded
    rcases builds_step ((start engine).run actions) action with
      same | ⟨fresh, later, rfl, begun, added⟩
    · exact extended (same ▸ recorded)
    · rw [added] at recorded
      rcases List.mem_append.mp recorded with known | new
      · exact extended known
      · rw [List.mem_singleton.mp new]
        exact ⟨actions, [], rfl, later, begun⟩

/-- Static variables that were begun in a run, by a build or within a preparation, and settled
later in it. -/
def BuiltIn (engine : Engine) (actions : List Action) (build : StaticBuild) (env : Environment) :
    Prop :=
  ∃ before opening middle after, actions = before ++ opening :: middle ++ after ∧
    (opening = .beginStatic ∨ opening = .prepare) ∧ Begins engine before build ∧
    build.environment? ((start engine).run (before ++ opening :: middle)).journal.calls = some env

theorem BuiltIn.concat {engine : Engine} {actions : List Action} {build : StaticBuild}
    {env : Environment} (built : BuiltIn engine actions build env) (action : Action) :
    BuiltIn engine (actions ++ [action]) build env := by
  obtain ⟨before, opening, middle, after, split, opens, begun, settled⟩ := built
  exact ⟨before, opening, middle, after ++ [action], by simp [split], opens, begun, settled⟩

/-- Installed variables come from a build of the current generation. -/
theorem builtIn_of_statics (engine : Engine) (actions : List Action)
    (genuine : (start engine).Genuine actions) (env : Environment)
    (installed : ((start engine).run actions).subject.statics = some env) :
    ∃ build, BuiltIn engine actions build env ∧
      build.generation = ((start engine).run actions).subject.generation := by
  induction actions using List.reverseRecOn with
  | nil => cases installed
  | append_singleton actions action ih =>
    obtain ⟨earlier, allowed⟩ := (genuine_concat _ _ _).mp genuine
    rw [run_concat] at installed ⊢
    rcases (effect_step ((start engine).run actions) action).statics_cases with
      gone | ⟨kept, stamped⟩ | ⟨fresh, placed, stamped, source⟩
    · rw [gone] at installed
      cases installed
    · obtain ⟨build, built, current⟩ := ih earlier (kept ▸ installed)
      exact ⟨build, built.concat action, current.trans stamped.symm⟩
    · obtain rfl : fresh = env := Option.some.inj (placed.symm.trans installed)
      rw [stamped]
      rcases source with rfl | ⟨build, started, rfl, begun, settled⟩
      · obtain ⟨build, recorded, current, settled⟩ := allowed
        obtain ⟨before, after, split, begun⟩ := begins_of_mem_builds engine actions build recorded
        refine ⟨build, ⟨before, .beginStatic, after, [_], by rw [split], Or.inl rfl, begun, ?_⟩,
          current⟩
        rw [← split]
        exact settled
      · obtain ⟨_, _, _, _, current, _⟩ := Instance.beginStatic_eq_some begun
        refine ⟨build, ⟨actions, .prepare, [], [], by simp, Or.inr rfl, ⟨started, begun⟩, ?_⟩,
          current⟩
        rw [run_concat]
        exact settled

/-- A build keeps the inputs of its generation: as long as the generation is the current one, it
was begun under the configuration and the global variables that the instance has. -/
theorem inputs_of_begins {engine : Engine} {before rest : List Action} {build : StaticBuild}
    (begun : Begins engine before build)
    (current : build.generation = ((start engine).run (before ++ rest)).subject.generation) :
    ∃ config host,
      ((start engine).run (before ++ rest)).subject.config = some config ∧
      ((start engine).run before).subject.config = some config ∧
      ((start engine).run before).subject.globals =
        ((start engine).run (before ++ rest)).subject.globals ∧
      ((start engine).run before).subject.host = some host ∧
      build.outcome = (Environment.buildStatic engine host
        ((start engine).run before).subject.globals.staticVariables config.staticVariables
        ((start engine).run before).journal).1.outcome := by
  obtain ⟨later, begun⟩ := begun
  obtain ⟨config, host, known, present, stamped, outcome⟩ := Instance.beginStatic_eq_some begun
  rw [stamped] at current
  rw [run_append] at current ⊢
  obtain ⟨sameConfig, sameGlobals⟩ := inputs_of_generation_eq _ rest current.symm
  refine ⟨config, host, sameConfig.trans known, known, sameGlobals.symm, present, ?_⟩
  rw [outcome, engine_run]
  rfl

/-- Static caching is safe however builds overlap. -/
theorem statics_current_of_genuine (engine : Engine) (actions : List Action)
    (genuine : (start engine).Genuine actions) :
    let s := (start engine).run actions
    s.subject.generation = actions.countP Action.replaces ∧
    (∀ env, s.subject.statics = some env →
      ∃ before opening middle after config host,
        actions = before ++ opening :: middle ++ after ∧
        (opening = .beginStatic ∨ opening = .prepare) ∧
        let origin := (start engine).run before
        s.subject.config = some config ∧ origin.subject.config = some config ∧
        origin.subject.globals = s.subject.globals ∧ origin.subject.host = some host ∧
        (Environment.buildStatic engine host origin.subject.globals.staticVariables
          config.staticVariables origin.journal).1.outcome.value?
            ((start engine).run (before ++ opening :: middle)).journal.calls = some env) ∧
    (∀ build ∈ s.builds, ∃ before after, actions = before ++ .beginStatic :: after ∧
      Begins engine before build ∧
      (build.generation = s.subject.generation ↔ ∀ action ∈ after, action.replaces = false)) ∧
    (∀ generation env, s.subject.finishStatic generation env s.journal =
      if generation = s.subject.generation then
        (true, { s.subject with statics := some env }, s.journal.emit (.staticsReady generation))
      else (false, s.subject, s.journal.emit (.staticsDiscarded generation))) ∧
    (∀ config error, config.validate = .error error →
      s.subject.setConfig config s.journal = .error error ∧ s.step (.setConfig config) = s) := by
  intro s
  refine ⟨?_, ?_, ?_, ?_, ?_⟩
  · have counted := generation_run (start engine) actions
    exact counted.trans (Nat.zero_add _)
  · intro env installed
    obtain ⟨build, built, current⟩ := builtIn_of_statics engine actions genuine env installed
    obtain ⟨before, opening, middle, after, split, opens, begun, settled⟩ := built
    have whole : actions = before ++ (opening :: middle ++ after) := by
      rw [split, List.append_assoc]
    rw [whole] at current
    obtain ⟨config, host, held, known, sameGlobals, present, outcome⟩ :=
      inputs_of_begins begun current
    rw [← whole] at held sameGlobals
    refine ⟨before, opening, middle, after, config, host, split, opens, held, known, sameGlobals,
      present, ?_⟩
    rw [← outcome]
    exact settled
  · intro build recorded
    obtain ⟨before, after, split, begun⟩ := begins_of_mem_builds engine actions build recorded
    have current := generation_eq_iff_of_begins after begun
    rw [← split] at current
    exact ⟨before, after, split, begun, current⟩
  · intro generation env
    rfl
  · intro config error invalid
    have rejected := s.subject.setConfig_of_invalid config s.journal error invalid
    exact ⟨rejected, by simp only [step, rejected]⟩

/-- Two builds are under way when the global variables are replaced between them; the older one is
handed in last. -/
def overlapping : List Action := [
  .setConfig { entities := some (.array []), row := some .null,
               staticVariables := some (.positional [.bool true]) },
  .setHost {}, .beginStatic,
  .setGlobals { staticVariables := some (.positional [.null]) }, .beginStatic,
  .finishStatic 2 { tier := .static, positional := [.ready .null, .ready (.bool true)] },
  .finishStatic 1 { tier := .static, positional := [.ready (.bool true)] }]

theorem genuine_overlapping : (start {}).Genuine overlapping :=
  ⟨trivial, trivial, trivial, trivial, trivial, ⟨_, .tail _ (.head _), rfl, rfl⟩,
    ⟨_, .head _, rfl, rfl⟩, trivial⟩

/-- The build of the replaced generation leaves the newer variables in place. -/
theorem statics_overlapping :
    (start {}).Genuine overlapping ∧
    ((start {}).run overlapping).subject.generation = 2 ∧
    (((start {}).run overlapping).subject.statics.map Environment.size) = some 2 :=
  ⟨genuine_overlapping, (statics_current_of_genuine {} overlapping genuine_overlapping).1, rfl⟩

end LiveConfig.Lifecycle
