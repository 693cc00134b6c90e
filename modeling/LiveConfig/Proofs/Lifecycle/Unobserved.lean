import LiveConfig.Proofs.Lifecycle.Skipping
import LiveConfig.Proofs.Rewriting.Confinement

set_option autoImplicit false

namespace LiveConfig

namespace Walk

theorem visit_of_plain (engine : Engine) (scope : Scope) (walk : Walk) (journal : Journal)
    {leaf : Path × String} (plain : Template.classify leaf.2 = .plain) :
    visit engine scope (walk, journal) leaf =
      ({ walk with tree := walk.tree.set leaf.1 (.ready (.text leaf.2)) }, journal) := by
  simp only [visit, Engine.evaluateTemplate, plain, write]

theorem run_of_plain (engine : Engine) (scope : Scope) {tree : Value} (journal : Journal)
    (distinct : tree.Distinct)
    (plain : ∀ leaf ∈ tree.strings [], Template.classify leaf.2 = .plain) :
    run engine scope tree journal = ({ tree := .ofValue tree }, journal) := by
  have unchanged (leaf : Path × String) (member : leaf ∈ tree.strings []) :
      (Partial.ofValue tree).set leaf.1 (.ready (.text leaf.2)) = .ofValue tree := by
    rw [tree.ofValue_eq_graft, Partial.set, Value.set?_graft distinct member, Option.getD_some]
    apply tree.graft_congr
    intro other listed
    unfold Value.replaced
    by_cases same : other.1 = leaf.1
    · rw [if_pos same, List.inj_on_of_nodup_map (Value.nodup_paths distinct) listed member same]
    · rw [if_neg same]
  have prefixes (leaves : List (Path × String)) (inside : ∀ leaf ∈ leaves, leaf ∈ tree.strings []) :
      leaves.foldl (visit engine scope) ({ tree := .ofValue tree }, journal) =
        ({ tree := .ofValue tree }, journal) := by
    induction leaves with
    | nil => rfl
    | cons leaf rest ih =>
      obtain ⟨head, tail⟩ := List.forall_mem_cons.mp inside
      rw [List.foldl_cons, visit_of_plain engine scope _ journal (plain leaf head),
        unchanged leaf head, ih tail]
  exact prefixes _ fun _ member => member

end Walk

namespace Change

theorem strings_texts {listed : List String} {leaf : Path × String}
    (member : leaf ∈ (Value.array (listed.map .text)).strings []) : leaf.2 ∈ listed := by
  obtain ⟨i, item, inner, found, inside, rfl⟩ := Value.mem_itemStrings.mp member
  obtain ⟨k, here, rfl⟩ := List.mem_map.mp (List.mem_of_getElem? found)
  rw [List.mem_singleton.mp inside]
  exact here

theorem distinct_texts (listed : List String) : (Value.array (listed.map .text)).Distinct := by
  apply Value.Distinct.array
  intro item member
  obtain ⟨k, _, rfl⟩ := List.mem_map.mp member
  exact .text k

theorem select_texts (listed : List String) :
    select (.ofValue (.array (listed.map .text))) = .entities listed := by
  have items (listed : List String) : (Partial.ofItems (listed.map Value.text)).filterMap readyId? =
      listed := by
    induction listed with
    | nil => rfl
    | cons k rest ih =>
      have named : readyId? (.ofValue (.text k)) = some k := rfl
      rw [List.map_cons, Partial.ofItems, List.filterMap_cons_some named, ih]
  exact congrArg Selection.entities (items listed)

theorem isObservable_texts (engine : Engine) (old : HostState) (scope : Scope)
    {listed : List String} (journal : Journal) (nonempty : listed ≠ [])
    (plain : ∀ k ∈ listed, Template.classify k = .plain) :
    isObservable engine old scope (some (.array (listed.map .text))) journal =
      (listed.any (differs old scope.host), journal) := by
  have walked := Walk.run_of_plain engine scope journal (distinct_texts listed)
    fun leaf member => plain leaf.2 (strings_texts member)
  cases listed with
  | nil => exact absurd rfl nonempty
  | cons k rest =>
    rw [isObservable]
    · rw [walked]
      simp only [select_texts]
    · nofun

end Change

/-- The entities of the configuration are listed as plain texts, and its expressions read the host
through them alone. -/
structure Config.Watches (listed : List String) (globals : Globals) (config : Config) : Prop where
  entities : config.entities = some (.array (listed.map .text))
  nonempty : listed ≠ []
  plain : ∀ k ∈ listed, Template.classify k = .plain
  dynamics : ∀ entry ∈ Environment.order
      (Merged.merge globals.dynamicVariables config.dynamicVariables),
    ∀ e, entry.2.Declares e → e.Confined listed
  body : ∀ kind body, config.body? = some (kind, body) → ∀ e, body.Embeds e → e.Confined listed
  style : ∀ style, config.style = some style → ∀ e, style.Embeds e → e.Confined listed

namespace Instance

/-- After the configuration is rendered, one of the listed entities has to differ for a render to be
called for. -/
theorem shouldUpdate_of_watches {i : Instance} {old new : HostState} {config : Config}
    {statics : Environment} {listed : List String} (journal : Journal)
    (ready : i.readiness = .ready) (clean : i.dirty = false) (present : i.host = some new)
    (configured : i.config = some config) (installed : i.statics = some statics)
    (landed : statics.calls = []) (watches : config.Watches listed i.globals) :
    (i.shouldUpdate (some old) journal).1 = listed.any (Change.differs old new) := by
  have settled := Environment.isSettled_of_calls_eq_nil landed journal.calls
  have observed (dynamics : Environment) (journal : Journal) :=
    Change.isObservable_texts i.engine old
      { host := new, statics := some statics, dynamics := some dynamics } journal watches.nonempty
      watches.plain
  simp [shouldUpdate, ready, Readiness.isReady, clean, present, configured, installed,
    Change.detect?, Environment.buildDynamic?, settled, watches.entities, observed]

/-- Instances with the same configuration, global variables and static variables. -/
structure SameInputs (i i' : Instance) : Prop where
  config : i.config = i'.config
  globals : i.globals = i'.globals
  statics : i.statics = i'.statics

theorem forecast?_of_ready {i : Instance} {config : Config} {host : HostState}
    {statics : Environment} {kind : Section} {body : Value} (opens : String → HostResult)
    (ready : i.readiness = .ready) (configured : i.config = some config)
    (present : i.host = some host) (installed : i.statics = some statics)
    (chosen : config.body? = some (kind, body)) :
    let source : RenderSource := {
      engine := i.engine, host, statics, kind, body, style := config.style.getD .emptyObject }
    i.forecast? opens = some (source.forecast opens
      ((Environment.forecast i.engine opens host (some statics) i.globals.dynamicVariables
        config.dynamicVariables).outcome.read .unread)) := by
  simp [forecast?, renderSource?, ready, Readiness.isReady, configured, present, installed, chosen]

/-- Renders of the same inputs against hosts that agree on what is watched have the same outcome. -/
theorem forecast?_eq {i i' : Instance} {old new : HostState} {config : Config}
    {listed : List String} (opens : String → HostResult) (engine : i.engine = i'.engine)
    (same : i.SameInputs i') (ready : i.readiness = .ready) (ready' : i'.readiness = .ready)
    (before : i.host = some old) (now : i'.host = some new) (configured : i'.config = some config)
    (valid : config.validate = .ok ()) (watches : config.Watches listed i'.globals)
    (agree : old.AgreeOn listed new) : i.forecast? opens = i'.forecast? opens := by
  obtain ⟨statics, installed⟩ := Option.isSome_iff_exists.mp (isSome_of_ready ready').2
  obtain ⟨⟨kind, body⟩, chosen⟩ :=
    Option.isSome_iff_exists.mp (config.isSome_body?_of_validate valid)
  have style (e : Expr) (embedded : (config.style.getD .emptyObject).Embeds e) :
      e.Confined listed := by
    cases styled : config.style with
    | none =>
      rw [styled] at embedded
      obtain ⟨_, member, _⟩ := embedded
      cases member
    | some style =>
      rw [styled] at embedded
      exact watches.style style styled e embedded
  rw [forecast?_of_ready opens ready (same.config.trans configured) before
      (same.statics.trans installed) chosen,
    forecast?_of_ready opens ready' configured now installed chosen, engine, same.globals,
    Environment.forecast_against agree i'.engine opens (some statics) watches.dynamics]
  exact congrArg some (RenderSource.forecast_against agree opens
    { engine := i'.engine, host := old, statics, kind, body
      style := config.style.getD .emptyObject }
    _ (watches.body kind body chosen) style)

end Instance

namespace Lifecycle

/-- A render that is skipped would have had the outcome of the one before. -/
theorem rendered_eq_of_shouldUpdate_eq_false (engine : Engine) (actions later : List Action)
    (opens : String → HostResult) (old new : HostState) (config : Config) (listed : List String) :
    let s := (start engine).run actions
    let t := (start engine).run (actions ++ .render :: later)
    (start engine).Genuine (actions ++ .render :: later) →
    s.renders = true → s.subject.host = some old → t.subject.host = some new →
    s.subject.SameInputs t.subject → t.subject.config = some config → config.Distinct →
    config.Watches listed t.subject.globals →
    (∀ k ∈ listed, Value.sameState (old.state? k) (new.state? k) = true →
      old.state? k = new.state? k) →
    (t.subject.shouldUpdate (some old) t.journal).1 = false →
    ∃ rendered, s.subject.RendersTo opens rendered ∧ t.subject.RendersTo opens rendered := by
  intro s t genuine shown before now same configured distinct watches identical skipped
  have valid := validate_of_config engine _ config configured
  have landed := calls_of_statics engine _ genuine
  have ready := Instance.ready_of_isSome_render shown
  obtain ⟨ready', clean⟩ := Instance.ready_of_shouldUpdate_eq_false skipped
  obtain ⟨statics, installed⟩ := Option.isSome_iff_exists.mp (Instance.isSome_of_ready ready').2
  have agree : old.AgreeOn listed new := by
    intro k member
    apply identical k member
    rw [Instance.shouldUpdate_of_watches t.journal ready' clean now configured installed
      (landed statics installed) watches] at skipped
    simpa [Change.differs] using List.any_eq_false.mp skipped k member
  have engine_eq : s.subject.engine = t.subject.engine := by
    rw [engine_run, engine_run]
  have forecast_eq := Instance.forecast?_eq opens engine_eq same ready ready' before now configured
    valid watches agree
  obtain ⟨rendered, found, first⟩ := Instance.exists_rendersTo opens ready
    (same.config.trans configured) valid distinct fun env held => landed env (same.statics ▸ held)
  obtain ⟨rendered', found', second⟩ := Instance.exists_rendersTo opens ready' configured valid
    distinct landed
  rw [found, found', Option.some.injEq] at forecast_eq
  rw [← forecast_eq] at second
  exact ⟨rendered, first, second⟩

/-- A row that shows the light in the kitchen. -/
def kitchen : Config where
  entities := some (.array [.text "light.kitchen"])
  row := some (.text "<$ states['light.kitchen'] $>")

def lit : HostState where
  states := [("light.kitchen", .text "on"), ("sun.sun", .text "below_horizon")]

def dawn : HostState where
  states := [("light.kitchen", .text "on"), ("sun.sun", .text "above_horizon")]

theorem embeds_kitchen {e : Expr}
    (embedded : (Value.text "<$ states['light.kitchen'] $>").Embeds e) :
    e = .index (.name "states") (.text "light.kitchen") := by
  have whole : Template.classify "<$ states['light.kitchen'] $>" =
      .whole "states['light.kitchen']" := Template.classify_delimited (by cbv) (by cbv)
  have parsed : Expr.parse "states['light.kitchen']" =
      .ok (.index (.name "states") (.text "light.kitchen")) := by cbv
  obtain ⟨leaf, member, source, listed, read⟩ := embedded
  obtain rfl : leaf = ([], "<$ states['light.kitchen'] $>") := List.mem_singleton.mp member
  rw [whole, Template.sources, List.mem_singleton] at listed
  rw [listed, parsed] at read
  exact (Except.ok.inj read).symm

theorem classify_kitchen : Template.classify "light.kitchen" = .plain := by
  have letters : "light.kitchen".toList =
      ['l', 'i', 'g', 'h', 't', '.', 'k', 'i', 't', 'c', 'h', 'e', 'n'] := by cbv
  apply Template.classify_eq_plain
  · rw [letters]
    decide
  · rw [letters]
    rfl

theorem watches_kitchen : kitchen.Watches ["light.kitchen"] {} where
  entities := rfl
  nonempty := List.cons_ne_nil _ _
  plain k member := by
    rw [List.mem_singleton.mp member]
    exact classify_kitchen
  dynamics _ member := nomatch member
  body kind body chosen e embedded := by
    obtain ⟨_, rfl⟩ := Prod.mk.inj (Option.some.inj chosen)
    rw [embeds_kitchen embedded]
    exact .entity List.mem_cons_self
  style _ styled := nomatch styled

theorem distinct_kitchen : kitchen.Distinct where
  body kind body chosen := by
    obtain ⟨_, rfl⟩ := Prod.mk.inj (Option.some.inj chosen)
    exact .text _
  style _ styled := nomatch styled

/-- The row is rendered by night. -/
def shown : List Action := [.setConfig kitchen, .setHost lit, .loadHelpers, .prepare]

theorem renders_shown : ((start {}).run shown).renders = true := by
  have valid (config : Config) (held : ((start {}).run shown).subject.config = some config) :
      config.validate = .ok () :=
    validate_of_config {} shown config held
  apply (Instance.isSome_render_iff valid _).mpr rfl
  intro env installed
  obtain rfl : { tier := .static } = env := Option.some.inj installed
  rfl

theorem subject_dawn :
    ((start {}).run (shown ++ .render :: [.setHost dawn])).subject =
      { ((start {}).run shown).subject with dirty := false, host := some dawn } := by
  have effect := effect_step ((start {}).run shown) .render
  rw [run_append, run_cons, run_cons, run_nil]
  show { (((start {}).run shown).step .render).subject with host := some dawn } = _
  generalize (((start {}).run shown).step .render).subject = after at effect
  cases effect with
  | rendered _ => rfl
  | unrendered failure =>
    rw [renders_shown] at failure
    cases failure

/-- The sun has risen since and the light is as it was, so no render is called for. -/
theorem rendered_at_dawn :
    let s := (start {}).run shown
    let t := (start {}).run (shown ++ .render :: [.setHost dawn])
    (t.subject.shouldUpdate (some lit) t.journal).1 = false ∧
      ∃ rendered, s.subject.RendersTo (fun _ => .ok .null) rendered ∧
        t.subject.RendersTo (fun _ => .ok .null) rendered := by
  intro s t
  have subject_eq : t.subject = { s.subject with dirty := false, host := some dawn } := subject_dawn
  have now : t.subject.host = some dawn := by rw [subject_eq]
  have clean : t.subject.dirty = false := by rw [subject_eq]
  have same : s.subject.SameInputs t.subject := by
    rw [subject_eq]
    exact ⟨rfl, rfl, rfl⟩
  have ready : t.subject.readiness = .ready := by
    rw [subject_eq]
    rfl
  have configured : t.subject.config = some kitchen := same.config.symm.trans rfl
  have installed : t.subject.statics = some { tier := .static } := same.statics.symm.trans rfl
  have watches : kitchen.Watches ["light.kitchen"] t.subject.globals := by
    rw [← same.globals]
    exact watches_kitchen
  have skipped : (t.subject.shouldUpdate (some lit) t.journal).1 = false := by
    rw [Instance.shouldUpdate_of_watches t.journal ready clean now configured installed rfl watches]
    rfl
  have genuine : (start {}).Genuine (shown ++ .render :: [.setHost dawn]) :=
    ⟨trivial, trivial, trivial, trivial, trivial, trivial, trivial⟩
  have identical : ∀ k ∈ ["light.kitchen"],
      Value.sameState (lit.state? k) (dawn.state? k) = true → lit.state? k = dawn.state? k := by
    intro k member _
    rw [List.mem_singleton.mp member]
    rfl
  exact ⟨skipped, rendered_eq_of_shouldUpdate_eq_false {} shown [.setHost dawn] (fun _ => .ok .null)
    lit dawn kitchen ["light.kitchen"] genuine renders_shown rfl now same configured
    distinct_kitchen watches identical skipped⟩

end Lifecycle

end LiveConfig
