import LiveConfig.Instance

set_option autoImplicit false

/- Runs of one instance. Its operations come in any order, builds of static variables stay under way
for as long as they like, and between two operations the journal moves on by itself. `Effect`
says once what an action can do to the instance; what a run keeps is derived from it. -/

namespace LiveConfig

namespace Instance

theorem setConfig_of_valid (i : Instance) (config : Config) (journal : Journal)
    (valid : config.validate = .ok ()) :
    i.setConfig config journal = .ok
      ({ i with config := some config, dirty := true }.invalidate,
        config.warnings.foldl (fun journal w => journal.emit (.configWarning w)) journal) := by
  simp only [setConfig, valid, bind, Except.bind, pure, Except.pure]

theorem setConfig_of_invalid (i : Instance) (config : Config) (journal : Journal)
    (error : ConfigError) (invalid : config.validate = .error error) :
    i.setConfig config journal = .error error := by
  simp only [setConfig, invalid, bind, Except.bind]

theorem beginStatic_eq_some {i : Instance} {journal later : Journal} {build : StaticBuild}
    (begun : i.beginStatic journal = some (build, later)) :
    ∃ config host, i.config = some config ∧ i.host = some host ∧
      build.generation = i.generation ∧
      build.outcome = (Environment.buildStatic i.engine host i.globals.staticVariables
        config.staticVariables journal).1.outcome := by
  obtain ⟨config, known, begun⟩ := Option.bind_eq_some_iff.mp begun
  obtain ⟨host, present, begun⟩ := Option.bind_eq_some_iff.mp begun
  simp only [pure, Option.some.injEq, Prod.mk.injEq] at begun
  obtain ⟨rfl, -⟩ := begun
  exact ⟨config, host, known, present, rfl, rfl⟩

theorem prepare_cases (i : Instance) (journal : Journal) :
    (i.prepare journal).2.1 = i ∨
      ∃ build started env, i.statics = none ∧ i.beginStatic journal = some (build, started) ∧
        build.environment? (i.prepare journal).2.2.calls = some env ∧
        (i.prepare journal).2.1 = { i with statics := some env } := by
  cases held : i.statics with
  | some env => exact Or.inl (by simp only [prepare, held, Option.isSome_some, if_true])
  | none =>
    cases begun : i.beginStatic journal with
    | none => exact Or.inl (by simp [prepare, held, begun])
    | some pair =>
      obtain ⟨build, started⟩ := pair
      cases settled : build.environment? (build.poll started).calls with
      | none => exact Or.inl (by simp [prepare, held, begun, settled])
      | some env =>
        obtain ⟨_, _, _, _, stamped, _⟩ := beginStatic_eq_some begun
        refine Or.inr ⟨build, started, env, rfl, rfl, ?_, ?_⟩
        · simp [prepare, held, begun, settled, finishStatic, stamped, Journal.emit]
        · simp [prepare, held, begun, settled, finishStatic, stamped]

theorem render_eq_some {i after : Instance} {journal later : Journal} {rendering : Rendering}
    (rendered : i.render journal = some (rendering, after, later)) :
    after = { i with dirty := false } := by
  obtain ⟨source, _, rendered⟩ := Option.bind_eq_some_iff.mp rendered
  obtain ⟨⟨dynamics, built⟩, _, rendered⟩ := Option.bind_eq_some_iff.mp rendered
  simp only [pure, Option.some.injEq, Prod.mk.injEq] at rendered
  exact rendered.2.1.symm

end Instance

/-- What happens to an instance. -/
inductive Action where
  | setConfig (config : Config)
  | setGlobals (globals : Globals)
  | setHost (host : HostState)
  | loadHelpers
  | prepare
  | beginStatic
  /-- Static variables are handed in for the generation they are said to be built for. -/
  | finishStatic (generation : Nat) (env : Environment)
  | shouldUpdate (previous : Option HostState)
  | render
  /-- The journal moves on: the host answers, renders are taken up, others use the engine. -/
  | elapse (journal : Journal)

namespace Action

/-- Whether an action replaces the configuration. One that cannot be rendered replaces nothing. -/
def configures : Action → Bool
  | .setConfig config => config.validate.isOk
  | _ => false

/-- The global variables that an action brings. -/
def globals? : Action → Option Globals
  | .setGlobals globals => some globals
  | _ => none

/-- Whether an action replaces the configuration or the global variables. -/
def replaces (action : Action) : Bool :=
  action.configures || action.globals?.isSome

end Action

/-- An instance in the middle of a run. -/
structure Lifecycle where
  subject : Instance
  /-- Every build that was started, oldest first. -/
  builds : List StaticBuild := []
  journal : Journal := {}

namespace Lifecycle

def start (engine : Engine) : Lifecycle :=
  { subject := { engine } }

/-- Whether a render at this moment comes about. -/
def renders (s : Lifecycle) : Bool :=
  (s.subject.render s.journal).isSome

def step (s : Lifecycle) : Action → Lifecycle
  | .setConfig config =>
    match s.subject.setConfig config s.journal with
    | .ok (subject, journal) => { s with subject, journal }
    | .error _ => s
  | .setGlobals globals => { s with subject := s.subject.setGlobals globals }
  | .setHost host => { s with subject := s.subject.setHost host }
  | .loadHelpers => { s with subject := s.subject.loadHelpers }
  | .prepare =>
    let (_, subject, journal) := s.subject.prepare s.journal
    { s with subject, journal }
  | .beginStatic =>
    match s.subject.beginStatic s.journal with
    | none => s
    | some (build, journal) => { s with builds := s.builds ++ [build], journal }
  | .finishStatic generation env =>
    let (_, subject, journal) := s.subject.finishStatic generation env s.journal
    { s with subject, journal }
  | .shouldUpdate previous =>
    { s with journal := (s.subject.shouldUpdate previous s.journal).2 }
  | .render =>
    match s.subject.render s.journal with
    | none => s
    | some (_, subject, journal) => { s with subject, journal }
  | .elapse journal => { s with journal }

def run (s : Lifecycle) (actions : List Action) : Lifecycle :=
  actions.foldl step s

@[simp] theorem run_nil (s : Lifecycle) : s.run [] = s := rfl

@[simp] theorem run_cons (s : Lifecycle) (action : Action) (rest : List Action) :
    s.run (action :: rest) = (s.step action).run rest := rfl

theorem run_append (s : Lifecycle) (first second : List Action) :
    s.run (first ++ second) = (s.run first).run second :=
  List.foldl_append

@[simp] theorem run_concat (s : Lifecycle) (actions : List Action) (action : Action) :
    s.run (actions ++ [action]) = (s.run actions).step action := by
  simp only [run_append, run_cons, run_nil]

/-- The instance after an action, case by case. -/
inductive Effect (s : Lifecycle) : Action → Instance → Prop where
  | configured (config : Config) (valid : config.validate = .ok ()) :
      Effect s (.setConfig config) { s.subject with
        config := some config, dirty := true, statics := none,
        generation := s.subject.generation + 1 }
  | refused (config : Config) (error : ConfigError) (invalid : config.validate = .error error) :
      Effect s (.setConfig config) s.subject
  | globals (globals : Globals) :
      Effect s (.setGlobals globals) { s.subject with
        globals, statics := none, generation := s.subject.generation + 1 }
  | host (host : HostState) : Effect s (.setHost host) { s.subject with host := some host }
  | helpers : Effect s .loadHelpers { s.subject with helpersLoaded := true }
  | begun : Effect s .beginStatic s.subject
  | installed (env : Environment) :
      Effect s (.finishStatic s.subject.generation env) { s.subject with statics := some env }
  | discarded (generation : Nat) (env : Environment) (stale : generation ≠ s.subject.generation) :
      Effect s (.finishStatic generation env) s.subject
  | unprepared : Effect s .prepare s.subject
  | prepared (build : StaticBuild) (started : Journal) (env : Environment)
      (missing : s.subject.statics = none)
      (begun : s.subject.beginStatic s.journal = some (build, started))
      (settled : build.environment? (s.step .prepare).journal.calls = some env) :
      Effect s .prepare { s.subject with statics := some env }
  | asked (previous : Option HostState) : Effect s (.shouldUpdate previous) s.subject
  | rendered (success : s.renders = true) : Effect s .render { s.subject with dirty := false }
  | unrendered (failure : s.renders = false) : Effect s .render s.subject
  | elapsed (journal : Journal) : Effect s (.elapse journal) s.subject

theorem effect_step (s : Lifecycle) (action : Action) :
    Effect s action (s.step action).subject := by
  cases action with
  | setConfig config =>
    cases checked : config.validate with
    | ok _ =>
      simp only [step, Instance.setConfig_of_valid _ _ _ checked]
      exact .configured config checked
    | error error =>
      simp only [step, Instance.setConfig_of_invalid _ _ _ _ checked]
      exact .refused config error checked
  | setGlobals globals => exact .globals globals
  | setHost host => exact .host host
  | loadHelpers => exact .helpers
  | prepare =>
    rcases s.subject.prepare_cases s.journal with
      same | ⟨build, started, env, missing, begun, settled, after⟩
    · have unchanged : (s.step .prepare).subject = s.subject := same
      rw [unchanged]
      exact .unprepared
    · have changed : (s.step .prepare).subject = { s.subject with statics := some env } := after
      rw [changed]
      exact .prepared build started env missing begun settled
  | beginStatic =>
    have unchanged : (s.step .beginStatic).subject = s.subject := by
      simp only [step]
      split <;> rfl
    rw [unchanged]
    exact .begun
  | finishStatic generation env =>
    by_cases current : generation = s.subject.generation
    · subst current
      simp only [step, Instance.finishStatic, if_true]
      exact .installed env
    · simp only [step, Instance.finishStatic, current, if_false]
      exact .discarded generation env current
  | shouldUpdate previous => exact .asked previous
  | render =>
    cases rendered : s.subject.render s.journal with
    | none =>
      simp only [step, rendered]
      exact .unrendered (by simp only [renders, rendered, Option.isSome_none])
    | some result =>
      obtain ⟨rendering, after, later⟩ := result
      simp only [step, rendered, Instance.render_eq_some rendered]
      exact .rendered (by simp only [renders, rendered, Option.isSome_some])
  | elapse journal => exact .elapsed journal

namespace Effect

variable {s : Lifecycle} {action : Action} {after : Instance}

theorem engine (effect : Effect s action after) : after.engine = s.subject.engine := by
  cases effect <;> rfl

theorem globals_eq (effect : Effect s action after) :
    after.globals = action.globals?.getD s.subject.globals := by
  cases effect <;> rfl

theorem config_eq (effect : Effect s action after) (kept : action.configures = false) :
    after.config = s.subject.config := by
  cases effect with
  | configured config valid => simp [Action.configures, valid, Except.isOk, Except.toBool] at kept
  | _ => rfl

/-- Each replacement starts a new generation, and nothing else does. -/
theorem generation_eq (effect : Effect s action after) :
    after.generation = s.subject.generation + if action.replaces then 1 else 0 := by
  cases effect with
  | configured config valid =>
    simp [Action.replaces, Action.configures, valid, Except.isOk, Except.toBool]
  | refused config error invalid =>
    simp [Action.replaces, Action.configures, Action.globals?, invalid, Except.isOk, Except.toBool]
  | _ => rfl

theorem statics_cases (effect : Effect s action after) :
    after.statics = none ∨
      after.statics = s.subject.statics ∧ after.generation = s.subject.generation ∨
      ∃ env, after.statics = some env ∧ after.generation = s.subject.generation ∧
        (action = .finishStatic s.subject.generation env ∨
          ∃ build started, action = .prepare ∧
            s.subject.beginStatic s.journal = some (build, started) ∧
            build.environment? (s.step .prepare).journal.calls = some env) := by
  cases effect with
  | configured config valid => exact Or.inl rfl
  | globals globals => exact Or.inl rfl
  | installed env => exact Or.inr (Or.inr ⟨env, rfl, rfl, Or.inl rfl⟩)
  | prepared build started env missing begun settled =>
    exact Or.inr (Or.inr ⟨env, rfl, rfl, Or.inr ⟨build, started, rfl, begun, settled⟩⟩)
  | _ => exact Or.inr (Or.inl ⟨rfl, rfl⟩)

end Effect

theorem engine_run (s : Lifecycle) (actions : List Action) :
    (s.run actions).subject.engine = s.subject.engine := by
  induction actions generalizing s with
  | nil => rfl
  | cons action rest ih => rw [run_cons, ih, (effect_step s action).engine]

theorem generation_run (s : Lifecycle) (actions : List Action) :
    (s.run actions).subject.generation =
      s.subject.generation + actions.countP Action.replaces := by
  induction actions generalizing s with
  | nil => rfl
  | cons action rest ih =>
    rw [run_cons, ih, (effect_step s action).generation_eq, List.countP_cons]
    omega

theorem config_run (s : Lifecycle) (actions : List Action)
    (kept : ∀ action ∈ actions, action.configures = false) :
    (s.run actions).subject.config = s.subject.config := by
  induction actions generalizing s with
  | nil => rfl
  | cons action rest ih =>
    have first := (effect_step s action).config_eq (kept action List.mem_cons_self)
    rw [run_cons, ih _ fun other member => kept other (List.mem_cons_of_mem _ member), first]

theorem globals_run (s : Lifecycle) (actions : List Action) :
    (s.run actions).subject.globals =
      (actions.filterMap Action.globals?).getLast?.getD s.subject.globals := by
  induction actions generalizing s with
  | nil => rfl
  | cons action rest ih =>
    rw [run_cons, ih, (effect_step s action).globals_eq]
    cases brought : action.globals? with
    | none => simp [brought]
    | some globals => simp [brought, List.getLast?_cons]

/-- Between two moments of one generation neither configuration nor global variables change. -/
theorem inputs_of_generation_eq (s : Lifecycle) (actions : List Action)
    (same : (s.run actions).subject.generation = s.subject.generation) :
    (s.run actions).subject.config = s.subject.config ∧
      (s.run actions).subject.globals = s.subject.globals := by
  have none : actions.countP Action.replaces = 0 := by
    have counted := generation_run s actions
    omega
  have kept : ∀ action ∈ actions, action.configures = false ∧ action.globals? = .none := by
    intro action member
    have idle := List.countP_eq_zero.mp none action member
    simpa [Action.replaces] using idle
  refine ⟨config_run s actions fun action member => (kept action member).1, ?_⟩
  have silent : actions.filterMap Action.globals? = [] :=
    List.filterMap_eq_nil_iff.mpr fun action member => (kept action member).2
  rw [globals_run, silent]
  rfl

end Lifecycle

end LiveConfig
