import LiveConfig.Proofs.Lifecycle.Skipping
import LiveConfig.Proofs.Lifecycle.Statics
import LiveConfig.Proofs.Rewriting.Mirroring
import LiveConfig.Proofs.Rewriting.Settlement

set_option autoImplicit false

namespace LiveConfig

namespace Partial

theorem isSettled_of_calls_eq_nil {tree : Partial} (idle : tree.calls = []) (calls : Calls) :
    tree.isSettled calls = true := by
  rw [← allObserved_calls, idle]
  rfl

end Partial

namespace Environment

theorem isSettled_of_calls_eq_nil {env : Environment} (idle : env.calls = []) (calls : Calls) :
    env.isSettled calls = true := by
  apply List.all_eq_true.mpr
  intro entry member
  exact Partial.isSettled_of_calls_eq_nil (calls_of_mem_entries idle member) calls

theorem calls_read (answers : Answers) (env : Environment) : (env.read answers).calls = [] := by
  apply List.flatMap_eq_nil_iff.mpr
  intro entry member
  rw [read, entries_mapEntries] at member
  obtain ⟨before, _, rfl⟩ := List.mem_map.mp member
  rfl

theorem calls_of_value?_outcome {env settled : Environment} {calls : Calls}
    (there : env.outcome.value? calls = some settled) : settled.calls = [] := by
  unfold outcome at there
  by_cases idle : env.calls.isEmpty = true
  · rw [if_pos idle] at there
    obtain rfl : env = settled := Option.some.inj there
    exact List.isEmpty_iff.mp idle
  · rw [if_neg idle, Outcome.value?, Deferred.value?] at there
    split at there
    · have same := Option.some.inj there
      rw [← same]
      exact env.calls_read calls.answers
    · cases there

end Environment

namespace Instance

/-- With a configuration that has a body and static variables that are settled, an instance renders
exactly when it is ready. -/
theorem isSome_render_iff {i : Instance} {journal : Journal}
    (valid : ∀ config, i.config = some config → config.validate = .ok ())
    (settled : ∀ env, i.statics = some env → env.isSettled journal.calls = true) :
    (i.render journal).isSome = true ↔ i.readiness = .ready := by
  constructor
  · exact ready_of_isSome_render
  · intro ready
    obtain ⟨hasConfig, hasHost, hasStatics, _⟩ := (Readiness.ofInputs_eq_ready_iff _).mp ready
    obtain ⟨config, held⟩ := Option.isSome_iff_exists.mp hasConfig
    obtain ⟨host, present⟩ := Option.isSome_iff_exists.mp hasHost
    obtain ⟨statics, installed⟩ := Option.isSome_iff_exists.mp hasStatics
    obtain ⟨⟨kind, body⟩, chosen⟩ :=
      Option.isSome_iff_exists.mp (config.isSome_body?_of_validate (valid config held))
    have source : i.renderSource? = some {
        engine := i.engine, host, statics, kind, body
        style := config.style.getD .emptyObject } := by
      simp [renderSource?, ready, Readiness.isReady, held, present, installed, chosen]
    have built := settled statics installed
    simp [render, source, buildDynamic?, Environment.buildDynamic?, built]

end Instance

namespace Lifecycle

/-- No run gets an instance to hold a configuration that would be refused. -/
theorem validate_of_config (engine : Engine) (actions : List Action) (config : Config)
    (held : ((start engine).run actions).subject.config = some config) :
    config.validate = .ok () := by
  induction actions using List.reverseRecOn with
  | nil => cases held
  | append_singleton actions action ih =>
    rw [run_concat] at held
    have effect := effect_step ((start engine).run actions) action
    generalize (((start engine).run actions).step action).subject = after at held effect
    cases effect with
    | configured fresh valid =>
      obtain rfl : fresh = config := Option.some.inj held
      exact valid
    | _ => exact ih held

theorem calls_of_statics (engine : Engine) (actions : List Action)
    (genuine : (start engine).Genuine actions) (env : Environment)
    (installed : ((start engine).run actions).subject.statics = some env) : env.calls = [] := by
  obtain ⟨build, built, _⟩ := builtIn_of_statics engine actions genuine env installed
  obtain ⟨before, opening, middle, _, _, _, begun, settled⟩ := built
  obtain ⟨later, begun⟩ := begun
  obtain ⟨config, host, _, _, _, outcome⟩ := Instance.beginStatic_eq_some begun
  rw [StaticBuild.environment?, outcome] at settled
  exact Environment.calls_of_value?_outcome settled

/-- A ready instance always renders, and only a ready one does. -/
theorem isSome_render_iff_of_genuine (engine : Engine) (actions : List Action)
    (genuine : (start engine).Genuine actions) :
    let i := ((start engine).run actions).subject
    (∀ config, i.config = some config → config.validate = .ok ()) ∧
    (∀ env, i.statics = some env → ∀ calls, env.isSettled calls = true) ∧
    ∀ journal, (i.render journal).isSome = true ↔ i.readiness = .ready := by
  intro i
  have valid := validate_of_config engine actions
  have settled : ∀ env, i.statics = some env → ∀ calls, env.isSettled calls = true := by
    intro env installed
    have idle := calls_of_statics engine actions genuine env installed
    exact Environment.isSettled_of_calls_eq_nil idle
  refine ⟨valid, settled, ?_⟩
  intro journal
  apply Instance.isSome_render_iff valid
  intro env installed
  exact settled env installed journal.calls

/-- The one static variable is called for in a build, and its answer comes before the build is
handed in. -/
def answered : List Action := [
  .setConfig {
    entities := some (.array []), row := some .null
    staticVariables := some (.named [("lamp", .text "<$ later('lamp') $>")]) },
  .setHost {}, .loadHelpers, .beginStatic,
  .elapse { calls := [⟨some "later('lamp')", .observed (.ok (.text "on"))⟩] },
  .finishStatic 1 { tier := .static, named := [("lamp", .ready (.text "on"))] }]

theorem beginStatic_answered :
    let s := (start { registry := Expr.gated }).run (answered.take 3)
    ∃ build later, s.subject.beginStatic s.journal = some (build, later) ∧ build.generation = 1 ∧
      build.environment? [⟨some "later('lamp')", .observed (.ok (.text "on"))⟩] =
        some { tier := .static, named := [("lamp", .ready (.text "on"))] } := by
  intro s
  have built : Environment.buildStatic { registry := Expr.gated } {} none
      (some (.named [("lamp", .text "<$ later('lamp') $>")])) {} = ({
        tier := .static
        named := [("lamp", .pending ((Deferred.ofCall 0).map (Engine.orFallback .null)))] },
      { calls := [⟨some "later('lamp')", .waiting "gate"⟩] }) := by
    simp only [Environment.buildStatic, Environment.build, Environment.order, Merged.merge,
      Merged.add, Fields.putAll, Fields.put, List.foldl, List.map, List.nil_append,
      Environment.extend, Environment.evaluateEntry, Walk.evaluateTemplate_later]
    rfl
  have begun : s.subject.beginStatic s.journal = some
      ({ generation := 1
         outcome := (Environment.buildStatic { registry := Expr.gated } {} none
          (some (.named [("lamp", .text "<$ later('lamp') $>")])) {}).1.outcome },
       (Environment.buildStatic { registry := Expr.gated } {} none
          (some (.named [("lamp", .text "<$ later('lamp') $>")])) {}).2) := rfl
  refine ⟨_, _, begun, rfl, ?_⟩
  rw [built]
  rfl

theorem genuine_answered : (start { registry := Expr.gated }).Genuine answered := by
  obtain ⟨build, later, begun, stamped, settled⟩ := beginStatic_answered
  have recorded : build ∈ ((start { registry := Expr.gated }).run (answered.take 5)).builds := by
    have split : answered.take 5 = answered.take 3 ++ [.beginStatic, .elapse
      { calls := [⟨some "later('lamp')", .observed (.ok (.text "on"))⟩] }] := rfl
    rw [split, run_append]
    simp only [run_cons, run_nil, step, begun]
    exact List.mem_append_right _ (List.mem_singleton_self build)
  exact ⟨trivial, trivial, trivial, trivial, trivial, ⟨build, recorded, stamped, settled⟩, trivial⟩

/-- The instance is ready although its static variables were under way when they were built, and so
it renders. -/
theorem isSome_render_answered :
    let s := (start { registry := Expr.gated }).run answered
    (start { registry := Expr.gated }).Genuine answered ∧ s.subject.readiness = .ready ∧
      s.renders = true := by
  intro s
  obtain ⟨_, _, rendered⟩ :=
    isSome_render_iff_of_genuine { registry := Expr.gated } answered genuine_answered
  have ready : s.subject.readiness = .ready := by
    obtain ⟨build, later, begun, _⟩ := beginStatic_answered
    have waiting : ((start { registry := Expr.gated }).run (answered.take 4)).subject =
        ((start { registry := Expr.gated }).run (answered.take 3)).subject := by
      have split : answered.take 4 = answered.take 3 ++ [.beginStatic] := rfl
      rw [split, run_concat]
      simp only [step, begun]
    have installed : s.subject = (Instance.finishStatic
        ((start { registry := Expr.gated }).run (answered.take 4)).subject 1
        { tier := .static, named := [("lamp", .ready (.text "on"))] }
        { calls := [⟨some "later('lamp')", .observed (.ok (.text "on"))⟩] }).2.1 := rfl
    rw [installed, waiting]
    rfl
  exact ⟨genuine_answered, ready, (rendered s.journal).mpr ready⟩

end Lifecycle

end LiveConfig
