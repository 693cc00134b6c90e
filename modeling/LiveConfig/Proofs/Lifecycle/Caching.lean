import Mathlib
import LiveConfig.Proofs.Lifecycle.Moving
import LiveConfig.Proofs.Lifecycle.Skipping
import LiveConfig.Proofs.Lifecycle.Statics
import LiveConfig.Proofs.Rewriting.Entering

set_option autoImplicit false

namespace LiveConfig

/-- Whether an event says that the static variables of a generation are installed. -/
def Event.announces (generation : Nat) : Event → Bool
  | .staticsReady stamp => stamp == generation
  | _ => false

namespace Journal

/-- Events are added, and none of them announces static variables. -/
def Unannounced (first last : Journal) : Prop :=
  ∃ reports : List Event, last.events = first.events ++ reports ∧
    ∀ event ∈ reports, ∀ generation, event.announces generation = false

namespace Unannounced

variable {first middle last : Journal}

theorem refl (journal : Journal) : journal.Unannounced journal :=
  ⟨[], by simp, nofun⟩

theorem trans (before : first.Unannounced middle) (after : middle.Unannounced last) :
    first.Unannounced last := by
  obtain ⟨earlier, events, quiet⟩ := before
  obtain ⟨later, more, silent⟩ := after
  refine ⟨earlier ++ later, by rw [more, events, List.append_assoc], ?_⟩
  intro event member
  rcases List.mem_append.mp member with old | new
  · exact quiet event old
  · exact silent event new

theorem emit (journal : Journal) (event : Event)
    (other : ∀ generation, event.announces generation = false) :
    journal.Unannounced (journal.emit event) := by
  refine ⟨[event], rfl, ?_⟩
  intro reported member
  rw [List.mem_singleton.mp member]
  exact other

end Unannounced

theorem Moves.unannounced {first last : Journal} (moves : first.Moves last) :
    first.Unannounced last := by
  induction moves with
  | here => exact .refl first
  | @enter last _ draft ih =>
    obtain ⟨reports, events, failures⟩ := (Entered.draft .nothing draft : last.Entered _).events_eq
    refine ih.trans ⟨reports, events, ?_⟩
    intro event member generation
    obtain ⟨source, failure, failed⟩ := failures event member
    rw [failed]
    rfl
  | @observe last _ id ih =>
    refine ih.trans ?_
    unfold Journal.observe
    split
    · split
      · exact ⟨_, rfl, by simp [Event.announces]⟩
      · exact ⟨[], by simp, nofun⟩
    · exact .refl last
  | warn _ warning ih => exact ih.trans (.emit _ (.configWarning warning) fun _ => rfl)
  | ignore _ complaint ih => exact ih.trans (.emit _ (.entitiesIgnored complaint) fun _ => rfl)

end Journal

namespace Instance

theorem prepare_announces (i : Instance) (journal : Journal) :
    ((i.prepare journal).2.1.statics = i.statics ∧
      journal.Unannounced (i.prepare journal).2.2) ∨
    (i.statics = none ∧ (i.prepare journal).2.1.statics.isSome = true ∧
      ∃ settled : Journal, journal.Unannounced settled ∧
        (i.prepare journal).2.2 = settled.emit (.staticsReady i.generation)) := by
  cases held : i.statics with
  | some env =>
    have idle : i.prepare journal = (some i.readiness, i, journal) := by
      simp only [prepare, held, Option.isSome_some, if_true]
    rw [idle]
    exact Or.inl ⟨held, .refl journal⟩
  | none =>
    cases begun : i.beginStatic journal with
    | none =>
      have idle : i.prepare journal = (some i.readiness, i, journal) := by
        simp [prepare, held, begun]
      rw [idle]
      exact Or.inl ⟨held, .refl journal⟩
    | some pair =>
      obtain ⟨build, started⟩ := pair
      have polled : journal.Unannounced (build.poll started) :=
        ((moves_beginStatic begun).poll build.outcome.calls).unannounced
      cases settled : build.environment? (build.poll started).calls with
      | none =>
        have waiting : i.prepare journal = (none, i, build.poll started) := by
          simp [prepare, held, begun, settled]
        rw [waiting]
        exact Or.inl ⟨held, polled⟩
      | some env =>
        obtain ⟨_, _, _, _, stamped, _⟩ := beginStatic_eq_some begun
        refine Or.inr ⟨rfl, ?_, build.poll started, polled, ?_⟩
        · simp [prepare, held, begun, settled, finishStatic, stamped]
        · simp [prepare, held, begun, settled, finishStatic, stamped]

end Instance

namespace Lifecycle

/-- What the instance reports while it does something. Time that passes is not its doing. -/
def reports (s : Lifecycle) : Action → List Event
  | .elapse _ => []
  | action => (s.step action).journal.events.drop s.journal.events.length

theorem reports_eq_drop {s : Lifecycle} {action : Action}
    (acts : ∀ journal, action ≠ .elapse journal) :
    s.reports action = (s.step action).journal.events.drop s.journal.events.length := by
  cases action with
  | elapse journal => exact absurd rfl (acts journal)
  | _ => rfl

/-- How often static variables of a generation are announced in a run. -/
def announced (generation : Nat) (s : Lifecycle) : List Action → Nat
  | [] => 0
  | action :: rest =>
    (s.reports action).countP (Event.announces generation) +
      announced generation (s.step action) rest

/-- Whether an action hands in static variables of a generation that has installed some already. -/
def overwrites (generation : Nat) (s : Lifecycle) : Action → Bool
  | .finishStatic stamp _ =>
    stamp == generation && s.subject.generation == generation && s.subject.statics.isSome
  | _ => false

/-- How often the installed variables of a generation are overwritten in a run. -/
def overwritten (generation : Nat) (s : Lifecycle) : List Action → Nat
  | [] => 0
  | action :: rest =>
    (s.overwrites generation action).toNat + overwritten generation (s.step action) rest

theorem announced_concat (generation : Nat) (s : Lifecycle) (actions : List Action)
    (action : Action) :
    announced generation s (actions ++ [action]) = announced generation s actions +
      ((s.run actions).reports action).countP (Event.announces generation) := by
  induction actions generalizing s with
  | nil => simp [announced]
  | cons first rest ih => simp only [List.cons_append, announced, ih, run_cons, Nat.add_assoc]

theorem overwritten_concat (generation : Nat) (s : Lifecycle) (actions : List Action)
    (action : Action) :
    overwritten generation s (actions ++ [action]) = overwritten generation s actions +
      ((s.run actions).overwrites generation action).toNat := by
  induction actions generalizing s with
  | nil => simp [overwritten]
  | cons first rest ih => simp only [List.cons_append, overwritten, ih, run_cons, Nat.add_assoc]

/-- Whether the variables of a generation are installed. -/
def holds (generation : Nat) (s : Lifecycle) : Bool :=
  s.subject.generation == generation && s.subject.statics.isSome

theorem countP_announces_of_unannounced {first last : Journal} (quiet : first.Unannounced last)
    (generation : Nat) :
    (last.events.drop first.events.length).countP (Event.announces generation) = 0 := by
  obtain ⟨reports, events, silent⟩ := quiet
  rw [events, List.drop_left]
  apply List.countP_eq_zero.mpr
  intro event member
  rw [silent event member generation]
  exact Bool.false_ne_true

theorem countP_announces_emit {first last : Journal} (quiet : first.Unannounced last)
    (stamp generation : Nat) :
    ((last.emit (.staticsReady stamp)).events.drop first.events.length).countP
      (Event.announces generation) = (stamp == generation).toNat := by
  obtain ⟨reports, events, silent⟩ := quiet
  have none : reports.countP (Event.announces generation) = 0 := by
    apply List.countP_eq_zero.mpr
    intro event member
    rw [silent event member generation]
    exact Bool.false_ne_true
  have added : (last.emit (.staticsReady stamp)).events =
      first.events ++ (reports ++ [.staticsReady stamp]) := by
    simp only [Journal.emit, events, List.append_assoc]
  rw [added, List.drop_left, List.countP_append, none, Nat.zero_add, List.countP_singleton]
  cases same : stamp == generation <;> simp [Event.announces, same]

section

variable {s : Lifecycle} {action : Action}

theorem unannounced_step (prepares : action ≠ .prepare)
    (installs : ∀ env, action ≠ .finishStatic s.subject.generation env)
    (acts : ∀ journal, action ≠ .elapse journal) :
    s.journal.Unannounced (s.step action).journal := by
  cases action with
  | setConfig config =>
    cases checked : config.validate with
    | ok _ =>
      simp only [step, Instance.setConfig_of_valid _ _ _ checked]
      exact (Journal.Moves.here.warnings config.warnings).unannounced
    | error error =>
      simp only [step, Instance.setConfig_of_invalid _ _ _ _ checked]
      exact .refl s.journal
  | setGlobals globals => exact .refl s.journal
  | setHost host => exact .refl s.journal
  | loadHelpers => exact .refl s.journal
  | prepare => exact absurd rfl prepares
  | beginStatic =>
    cases begun : s.subject.beginStatic s.journal with
    | none =>
      simp only [step, begun]
      exact .refl s.journal
    | some pair =>
      simp only [step, begun]
      exact (Instance.moves_beginStatic begun).unannounced
  | finishStatic stamp env =>
    have stale : stamp ≠ s.subject.generation := fun current => installs env (current ▸ rfl)
    simp only [step, Instance.finishStatic, stale, if_false]
    exact .emit s.journal _ fun _ => rfl
  | shouldUpdate previous => exact (s.subject.moves_shouldUpdate previous s.journal).unannounced
  | render =>
    cases rendered : s.subject.render s.journal with
    | none =>
      simp only [step, rendered]
      exact .refl s.journal
    | some result =>
      simp only [step, rendered]
      exact (Instance.moves_render rendered).unannounced
  | elapse journal => exact absurd rfl (acts journal)

theorem countP_reports_eq_zero (prepares : action ≠ .prepare)
    (installs : ∀ env, action ≠ .finishStatic s.subject.generation env) (generation : Nat) :
    (s.reports action).countP (Event.announces generation) = 0 := by
  by_cases passes : ∃ journal, action = .elapse journal
  · obtain ⟨journal, rfl⟩ := passes
    rfl
  · have quiet := unannounced_step prepares installs fun journal same => passes ⟨journal, same⟩
    rw [reports_eq_drop fun journal same => passes ⟨journal, same⟩]
    exact countP_announces_of_unannounced quiet generation

theorem overwrites_eq_false (installs : ∀ env, action ≠ .finishStatic s.subject.generation env)
    (generation : Nat) : s.overwrites generation action = false := by
  cases action with
  | finishStatic stamp env =>
    by_contra overwrites
    simp only [Lifecycle.overwrites, Bool.not_eq_false, Bool.and_eq_true, beq_iff_eq] at overwrites
    exact installs env (by rw [overwrites.1.1, overwrites.1.2])
  | _ => rfl

theorem holds_of_holds_step (prepares : action ≠ .prepare)
    (installs : ∀ env, action ≠ .finishStatic s.subject.generation env) {generation : Nat}
    (held : (s.step action).holds generation = true) : s.holds generation = true := by
  simp only [holds, Bool.and_eq_true] at held ⊢
  rcases (effect_step s action).statics_cases with
    none | ⟨kept, same⟩ | ⟨env, _, _, installed | ⟨_, _, prepared, _⟩⟩
  · rw [none] at held
    cases held.2
  · rw [← kept, ← same]
    exact held
  · exact absurd installed (installs env)
  · exact absurd prepared prepares

end

theorem announced_prepare (s : Lifecycle) (generation : Nat) :
    (s.reports .prepare).countP (Event.announces generation) =
      (!s.holds generation && (s.step .prepare).holds generation).toNat := by
  have stamped : (s.step .prepare).subject.generation = s.subject.generation :=
    (effect_step s .prepare).generation_eq
  rcases s.subject.prepare_announces s.journal with
    ⟨kept, quiet⟩ | ⟨missing, installed, settled, quiet, announced⟩
  · have unchanged : (s.step .prepare).holds generation = s.holds generation := by
      have statics : (s.step .prepare).subject.statics = s.subject.statics := kept
      simp only [holds, stamped, statics]
    rw [unchanged, Bool.not_and_self]
    exact countP_announces_of_unannounced quiet generation
  · have emitted : (s.step .prepare).journal =
        settled.emit (.staticsReady s.subject.generation) := announced
    have there : (s.step .prepare).subject.statics.isSome = true := installed
    simp only [reports, emitted, countP_announces_emit quiet, holds, missing, stamped, there]
    simp

theorem announced_finishStatic (s : Lifecycle) (env : Environment) (generation : Nat) :
    let action := Action.finishStatic s.subject.generation env
    (s.reports action).countP (Event.announces generation) =
      (s.overwrites generation action).toNat +
        (!s.holds generation && (s.step action).holds generation).toNat := by
  intro action
  have next : s.step action = { s with
      subject := { s.subject with statics := some env }
      journal := s.journal.emit (.staticsReady s.subject.generation) } := by
    simp only [action, step, Instance.finishStatic, if_true]
  have emitted := countP_announces_emit (.refl s.journal) s.subject.generation generation
  simp only [action, reports, overwrites] at next ⊢
  simp only [next, emitted, holds, Option.isSome_some]
  cases s.subject.generation == generation <;> cases s.subject.statics.isSome <;> rfl

/-- An action announces the variables of a generation exactly when it overwrites them or is the
first to install them. -/
theorem announced_step (s : Lifecycle) (action : Action) (generation : Nat) :
    (s.reports action).countP (Event.announces generation) =
      (s.overwrites generation action).toNat +
        (!s.holds generation && (s.step action).holds generation).toNat := by
  by_cases prepares : action = .prepare
  · subst prepares
    have calm : s.overwrites generation .prepare = false := rfl
    rw [announced_prepare, calm, Bool.toNat_false, Nat.zero_add]
  · by_cases installs : ∃ env, action = .finishStatic s.subject.generation env
    · obtain ⟨env, rfl⟩ := installs
      exact announced_finishStatic s env generation
    · have others (env : Environment) : action ≠ .finishStatic s.subject.generation env :=
        fun same => installs ⟨env, same⟩
      have still : (!s.holds generation && (s.step action).holds generation) = false := by
        cases held : (s.step action).holds generation with
        | true => rw [holds_of_holds_step prepares others held, Bool.not_true, Bool.false_and]
        | false => rw [Bool.and_false]
      rw [countP_reports_eq_zero prepares others, overwrites_eq_false others, still]
      rfl

theorem Effect.isSome_statics {s : Lifecycle} {action : Action} {after : Instance}
    (effect : Effect s action after) (kept : action.replaces = false)
    (held : s.subject.statics.isSome = true) : after.statics.isSome = true := by
  cases effect with
  | configured config valid =>
    simp [Action.replaces, Action.configures, valid, Except.isOk, Except.toBool] at kept
  | globals globals => cases kept
  | installed env => rfl
  | prepared build started env missing begun settled => rfl
  | _ => exact held

theorem holds_of_overwrites {s : Lifecycle} {action : Action} {generation : Nat}
    (overwrites : s.overwrites generation action = true) : s.holds generation = true := by
  cases action with
  | finishStatic stamp env =>
    simp only [Lifecycle.overwrites, Bool.and_eq_true] at overwrites
    simp only [holds, Bool.and_eq_true]
    exact ⟨overwrites.1.2, overwrites.2⟩
  | _ => cases overwrites

theorem holds_step {s : Lifecycle} {action : Action} {generation : Nat}
    (held : s.holds generation = true)
    (lasting : (s.step action).subject.generation ≤ generation) :
    (s.step action).holds generation = true := by
  have effect := effect_step s action
  have stamped := effect.generation_eq
  simp only [holds, Bool.and_eq_true, beq_iff_eq] at held ⊢
  have kept : action.replaces = false := by
    by_contra replaced
    rw [if_pos (Bool.not_eq_false _ ▸ replaced)] at stamped
    omega
  rw [if_neg (by simp [kept])] at stamped
  exact ⟨stamped.trans held.1, effect.isSome_statics kept held.2⟩

/-- How often a generation was announced against how often it was overwritten: once more where its
variables were installed at all. -/
structure Tally (generation announcements overwritings : Nat) (installed : Bool) (s : Lifecycle) :
    Prop where
  balance : announcements = overwritings + installed.toNat
  installed_of_pos : 0 < overwritings → installed = true
  eq_holds : s.subject.generation ≤ generation → installed = s.holds generation

namespace Tally

variable {s : Lifecycle} {generation announcements overwritings : Nat} {installed : Bool}

theorem holds_eq_false_of_past (past : generation < s.subject.generation) :
    s.holds generation = false := by
  simp only [holds, Bool.and_eq_false_iff, beq_eq_false_iff_ne]
  exact Or.inl (Nat.ne_of_gt past)

/-- A generation that is over is neither announced nor overwritten any more. -/
theorem step_of_past (tally : Tally generation announcements overwritings installed s)
    (past : generation < s.subject.generation) (action : Action) :
    Tally generation (announcements + (s.reports action).countP (Event.announces generation))
      (overwritings + (s.overwrites generation action).toNat) installed (s.step action) := by
  have later : generation < (s.step action).subject.generation := by
    rw [(effect_step s action).generation_eq]
    omega
  have calm : s.overwrites generation action = false := by
    by_contra overwrites
    have held := holds_of_overwrites (Bool.not_eq_false _ ▸ overwrites)
    rw [holds_eq_false_of_past past] at held
    cases held
  have silent : (s.reports action).countP (Event.announces generation) = 0 := by
    rw [announced_step, calm, holds_eq_false_of_past later, Bool.and_false]
    rfl
  rw [silent, calm]
  exact ⟨tally.balance, tally.installed_of_pos, fun lasting => absurd later (by omega)⟩

/-- While a generation lasts, its variables are installed once and overwritten from then on. -/
theorem step_of_lasting (tally : Tally generation announcements overwritings installed s)
    (lasting : s.subject.generation ≤ generation) (action : Action) :
    Tally generation (announcements + (s.reports action).countP (Event.announces generation))
      (overwritings + (s.overwrites generation action).toNat)
      (s.holds generation || (s.step action).holds generation) (s.step action) := by
  have known := tally.eq_holds lasting
  refine ⟨?_, ?_, ?_⟩
  · rw [announced_step, tally.balance, known]
    cases s.holds generation <;> cases (s.step action).holds generation <;>
      simp only [Bool.not_true, Bool.not_false, Bool.and_true, Bool.and_false, Bool.or_true,
        Bool.or_false, Bool.toNat_true, Bool.toNat_false] <;> omega
  · intro some
    cases overwrites : s.overwrites generation action with
    | true => rw [holds_of_overwrites overwrites, Bool.true_or]
    | false =>
      rw [overwrites, Bool.toNat_false, Nat.add_zero] at some
      rw [← known, tally.installed_of_pos some, Bool.true_or]
  · intro still
    cases held : s.holds generation with
    | true => rw [holds_step held still, Bool.true_or]
    | false => rw [Bool.false_or]

end Tally

/-- A generation is announced once for the variables it comes to hold, and once more each time they
are overwritten. -/
theorem tally_run (s : Lifecycle) (actions : List Action) (generation : Nat)
    (fresh : s.holds generation = false) :
    ∃ installed, Tally generation (announced generation s actions)
      (overwritten generation s actions) installed (s.run actions) := by
  induction actions using List.reverseRecOn with
  | nil => exact ⟨false, rfl, fun more => absurd more (Nat.lt_irrefl 0), fun _ => fresh.symm⟩
  | append_singleton actions action ih =>
    obtain ⟨installed, tally⟩ := ih
    rw [announced_concat, overwritten_concat, run_concat]
    by_cases past : generation < (s.run actions).subject.generation
    · exact ⟨_, tally.step_of_past past action⟩
    · exact ⟨_, tally.step_of_lasting (Nat.le_of_not_lt past) action⟩

theorem overwritten_run (s : Lifecycle) (actions : List Action)
    (held : s.subject.statics.isSome = true)
    (kept : ∀ action ∈ actions, action.replaces = false) :
    overwritten s.subject.generation s actions =
      (actions.filterMap (Action.handsIn? s.subject.generation)).length := by
  induction actions generalizing s with
  | nil => rfl
  | cons action rest ih =>
    have idle := kept action List.mem_cons_self
    have effect := effect_step s action
    have stamped := effect.generation_eq
    rw [if_neg (by simp [idle]), Nat.add_zero] at stamped
    have later : ∀ other ∈ rest, other.replaces = false := fun other member =>
      kept other (List.mem_cons_of_mem _ member)
    have rested := ih _ (effect.isSome_statics idle held) later
    rw [stamped] at rested
    have one : (s.overwrites s.subject.generation action).toNat =
        (action.handsIn? s.subject.generation).toList.length := by
      cases action with
      | finishStatic stamp env =>
        by_cases current : stamp = s.subject.generation
        · simp [overwrites, Action.handsIn?, current, held]
        · simp [overwrites, Action.handsIn?, current]
      | _ => rfl
    rw [overwritten, one, rested]
    cases handed : action.handsIn? s.subject.generation with
    | none => simp [handed]
    | some env => simp [handed, Nat.add_comm]

/-- Installed variables stay in use until others of their generation are handed in, and a
generation is announced at most once exactly when that never happens. -/
theorem statics_within_generation (engine : Engine) (before after : List Action)
    (kept : ∀ action ∈ after, action.replaces = false) :
    let s := (start engine).run before
    let t := (start engine).run (before ++ after)
    let current := s.subject.generation
    (∀ env, s.subject.statics = some env →
      overwritten current s after = (after.filterMap (Action.handsIn? current)).length ∧
      t.subject.statics =
        some ((after.filterMap (Action.handsIn? current)).getLast?.getD env)) ∧
    announced current (start engine) (before ++ after) =
      overwritten current (start engine) (before ++ after) + t.subject.statics.isSome.toNat ∧
    ∀ generation, announced generation (start engine) (before ++ after) ≤ 1 ↔
      overwritten generation (start engine) (before ++ after) = 0 := by
  intro s t current
  have counted (generation : Nat) := tally_run (start engine) (before ++ after) generation
    (by simp [holds, start])
  have resumed : t = s.run after := run_append (start engine) before after
  have lasting : t.subject.generation = current := by
    have none : after.countP Action.replaces = 0 :=
      List.countP_eq_zero.mpr fun action member => by simp [kept action member]
    rw [resumed, generation_run, none, Nat.add_zero]
  refine ⟨?_, ?_, ?_⟩
  · intro env installed
    have held : s.subject.statics.isSome = true := by rw [installed, Option.isSome_some]
    exact ⟨overwritten_run s after held kept, resumed ▸ statics_run s after env installed kept⟩
  · obtain ⟨installed, tally⟩ := counted current
    rw [tally.balance, tally.eq_holds (Nat.le_of_eq lasting)]
    simp [holds, t, lasting]
  · intro generation
    obtain ⟨installed, tally⟩ := counted generation
    constructor
    · intro once
      -- What is overwritten was installed before, which makes two announcements.
      by_contra some
      have balance := tally.balance
      rw [tally.installed_of_pos (Nat.pos_of_ne_zero some), Bool.toNat_true] at balance
      omega
    · intro none
      rw [tally.balance, none, Nat.zero_add]
      exact Bool.toNat_le installed

/-- Static variables that hold a name and nothing else. -/
def namedUser (name : String) : Environment :=
  { tier := .static, positional := [.ready (.text name)] }

/-- Two builds of one generation are under way, begun for different users; the older one is handed
in last. -/
def doubled : List Action := [
  .setConfig {
    entities := some (.array []), row := some .null
    staticVariables := some (.positional [.text "user"]) },
  .setHost { user := .text "ada" }, .beginStatic,
  .setHost { user := .text "bob" }, .beginStatic,
  .finishStatic 1 (namedUser "bob"), .finishStatic 1 (namedUser "ada")]

theorem buildStatic_user (name : String) :
    Environment.buildStatic {} { user := .text name } none (some (.positional [.text "user"])) {} =
      (namedUser name, {}) := by
  have plain : Template.classify "user" = .plain := by cbv
  have parsed : Expr.parse "user" = .ok (.name "user") := by cbv
  have evaluated : Engine.evaluateTemplate {}
      { host := { user := .text name }, statics := some { tier := .static } }
      .declaration "user" {} = (.ready (.text name), {}) := by
    simp only [Engine.evaluateTemplate, plain, Engine.evaluate, Engine.evaluateOr,
      Engine.tryEvaluate, parsed, Except.mapError, ok_bind]
    rfl
  simp only [Environment.buildStatic, Environment.build, Environment.order, Merged.merge,
    Merged.add, List.map, List.nil_append, List.append_nil, List.foldl,
    Environment.extend, Environment.evaluateEntry, Environment.entryScope, evaluated]
  rfl

theorem step_beginStatic_user {s : Lifecycle} {config : Config} {name : String}
    (engine : s.subject.engine = {}) (globals : s.subject.globals = {})
    (configured : s.subject.config = some config)
    (declared : config.staticVariables = some (.positional [.text "user"]))
    (host : s.subject.host = some { user := .text name }) (journal : s.journal = {}) :
    s.step .beginStatic = { s with builds := s.builds ++ [
      { generation := s.subject.generation, outcome := .ready (namedUser name) }] } := by
  have begun : s.subject.beginStatic s.journal = some
      ({ generation := s.subject.generation, outcome := .ready (namedUser name) }, {}) := by
    simp only [Instance.beginStatic, configured, host, engine, globals, declared, journal,
      Option.bind_eq_bind, Option.bind_some]
    rw [buildStatic_user]
    rfl
  simp only [step, begun]
  rw [← journal]

theorem run_doubled :
    ∃ subject : Instance, (start {}).run (doubled.take 5) = {
        subject
        builds := [
          { generation := 1, outcome := .ready (namedUser "ada") },
          { generation := 1, outcome := .ready (namedUser "bob") }] } ∧
      subject.generation = 1 ∧ subject.statics = none := by
  have first : (start {}).run (doubled.take 3) =
      ((start {}).run (doubled.take 2)).step .beginStatic := rfl
  have second : (start {}).run (doubled.take 5) =
      (((start {}).run (doubled.take 3)).step (.setHost { user := .text "bob" })).step
        .beginStatic := rfl
  rw [step_beginStatic_user rfl rfl rfl rfl rfl rfl] at first
  rw [second, first, step_beginStatic_user rfl rfl rfl rfl rfl rfl]
  exact ⟨_, rfl, rfl, rfl⟩

theorem genuine_doubled : (start {}).Genuine doubled := by
  obtain ⟨subject, begun, stamped, missing⟩ := run_doubled
  have split : doubled = doubled.take 5 ++
      [.finishStatic 1 (namedUser "bob"), .finishStatic 1 (namedUser "ada")] := rfl
  rw [split, genuine_append, begun]
  refine ⟨⟨trivial, trivial, trivial, trivial, trivial, trivial⟩, ?_, ?_, trivial⟩
  · exact ⟨_, .tail _ (.head _), rfl, rfl⟩
  · exact ⟨_, .head _, rfl, rfl⟩

theorem installed_doubled :
    ((start {}).run (doubled.take 6)).subject.generation = 1 ∧
    ((start {}).run (doubled.take 6)).subject.statics = some (namedUser "bob") := by
  obtain ⟨subject, begun, stamped, missing⟩ := run_doubled
  have split : doubled.take 6 = doubled.take 5 ++ [.finishStatic 1 (namedUser "bob")] := rfl
  rw [split, run_concat, begun]
  simp only [step, Instance.finishStatic, stamped, if_true, and_self]

theorem overwritten_doubled : overwritten 1 (start {}) doubled = 1 := by
  obtain ⟨subject, begun, stamped, missing⟩ := run_doubled
  have split : doubled = doubled.take 5 ++ [.finishStatic 1 (namedUser "bob")] ++
      [.finishStatic 1 (namedUser "ada")] := rfl
  have calm : overwritten 1 (start {}) (doubled.take 5) = 0 := rfl
  rw [split, overwritten_concat, overwritten_concat, calm, run_concat, begun]
  simp [overwrites, step, Instance.finishStatic, stamped, missing]

theorem kept_doubled : ∀ action ∈ doubled.drop 6, action.replaces = false := by
  intro action member
  rw [List.mem_singleton.mp member]
  rfl

/-- The older build takes the place of the newer one, and the generation is announced again. -/
theorem statics_doubled :
    let s := (start {}).run (doubled.take 6)
    let t := (start {}).run doubled
    (∀ action ∈ doubled.drop 6, action.replaces = false) ∧
    s.subject.statics = some (namedUser "bob") ∧ t.subject.statics = some (namedUser "ada") ∧
    announced 1 (start {}) doubled = 2 := by
  intro s t
  obtain ⟨current, installed⟩ := installed_doubled
  obtain ⟨replaced, balance, _⟩ :=
    statics_within_generation {} (doubled.take 6) (doubled.drop 6) kept_doubled
  obtain ⟨_, last⟩ := replaced (namedUser "bob") installed
  have split : doubled.take 6 ++ doubled.drop 6 = doubled := List.take_append_drop 6 doubled
  rw [split, current] at balance last
  have ending : t.subject.statics = some (namedUser "ada") := last
  rw [overwritten_doubled, ending] at balance
  exact ⟨kept_doubled, installed, ending, balance⟩

/-- A build that is handed in late replaces the variables in use. -/
theorem not_statics_of_generation :
    ¬ ∀ (engine : Engine) (before after : List Action) (env : Environment),
      (start engine).Genuine (before ++ after) →
      (∀ action ∈ after, action.replaces = false) →
      ((start engine).run before).subject.statics = some env →
      ((start engine).run (before ++ after)).subject.statics = some env := by
  intro cached
  obtain ⟨current, installed⟩ := installed_doubled
  have same := cached {} (doubled.take 6) (doubled.drop 6) (namedUser "bob") genuine_doubled
    kept_doubled installed
  have last : ((start {}).run (doubled.take 6 ++ doubled.drop 6)).subject.statics =
      some (namedUser "ada") := by
    have split : doubled.drop 6 = [.finishStatic 1 (namedUser "ada")] := rfl
    rw [split, run_concat]
    simp only [step, Instance.finishStatic, current, if_true]
  rw [last] at same
  simp [namedUser] at same

end Lifecycle

end LiveConfig
