import LiveConfig.Proofs.Lifecycle.Moving
import LiveConfig.Proofs.Lifecycle.Rendering
import LiveConfig.Session

set_option autoImplicit false

namespace LiveConfig

/-- The calls that are started between two moments. -/
def Journal.since (journal later : Journal) : List CallId :=
  List.range' journal.calls.length (later.calls.length - journal.calls.length)

theorem Journal.since_eq {journal later : Journal} {count : Nat}
    (length : later.calls.length = journal.calls.length + count) :
    journal.since later = List.range' journal.calls.length count := by
  rw [since, length, Nat.add_sub_cancel_left]

theorem Journal.since_eq_nil {journal later : Journal}
    (length : later.calls.length = journal.calls.length) : journal.since later = [] := by
  rw [since, length, Nat.sub_self, List.range'_zero]

namespace Session

/-- The session after some commands. -/
def after (s : Session) (commands : List Command) : Session :=
  (s.run commands).2

theorem after_cons (s : Session) (command : Command) (rest : List Command) :
    s.after (command :: rest) = (s.step command).2.after rest := rfl

theorem after_append (s : Session) (first second : List Command) :
    s.after (first ++ second) = (s.after first).after second := by
  induction first generalizing s with
  | nil => rfl
  | cons command rest ih => exact ih _

/-- The calls that a command starts. -/
def started (s : Session) (command : Command) : List CallId :=
  s.journal.since (s.step command).2.journal

theorem advance_prepare (i : Instance) (journal : Journal) :
    journal.calls.Advance (i.prepare journal).2.2.calls := by
  unfold Instance.prepare
  split
  · exact .refl _
  · cases begun : i.beginStatic journal with
    | none => exact .refl _
    | some pair =>
      obtain ⟨build, later⟩ := pair
      have polled : journal.calls.Advance (build.poll later).calls :=
        ((Instance.moves_beginStatic begun).poll build.outcome.calls).advance
      dsimp only
      split
      · exact polled
      · unfold Instance.finishStatic
        split <;> exact polled

theorem advance_finishStatic (s : Session) (id : Nat) :
    s.journal.calls.Advance (s.finishStatic id).2.journal.calls := by
  unfold finishStatic
  split
  · exact .refl _
  · next build _ =>
    have polled : s.journal.calls.Advance (build.poll s.journal).calls :=
      (Journal.Moves.here.poll build.outcome.calls).advance
    dsimp only
    split
    · exact polled
    · unfold Instance.finishStatic
      split <;> exact polled

/-- No command loses a call or an observed result. -/
theorem advance_step (s : Session) (command : Command) :
    s.journal.calls.Advance (s.step command).2.journal.calls := by
  cases command with
  | setConfig config =>
    cases checked : config.validate with
    | ok _ =>
      simp only [step, Instance.setConfig_of_valid _ _ _ checked]
      exact (Journal.Moves.here.warnings config.warnings).advance
    | error error =>
      simp only [step, Instance.setConfig_of_invalid _ _ _ _ checked]
      exact .refl _
  | setGlobals globals => exact .refl _
  | setHost host => exact .refl _
  | loadHelpers => exact .refl _
  | prepare => exact advance_prepare s.subject s.journal
  | beginStatic =>
    show s.journal.calls.Advance s.beginStatic.2.journal.calls
    unfold beginStatic
    split
    · exact .refl _
    · next begun => exact (Instance.moves_beginStatic begun).advance
  | finishStatic id => exact s.advance_finishStatic id
  | release gate result =>
    exact ⟨s.journal.keep_release gate result, Nat.le_of_eq (List.length_map _).symm⟩
  | shouldUpdate previous => exact (s.subject.moves_shouldUpdate previous s.journal).advance
  | render =>
    show s.journal.calls.Advance s.render.2.journal.calls
    unfold render
    split
    · exact .refl _
    · next rendered =>
      split <;> exact (Instance.moves_render rendered).advance
  | pollRender id =>
    show s.journal.calls.Advance (s.pollRender id).2.journal.calls
    unfold pollRender
    split
    · exact .refl _
    · next rendering _ =>
      dsimp only
      split <;> exact (rendering.moves_poll s.journal).advance
  | evaluate source => exact (s.subject.moves_evaluate source s.journal).advance

/-- Builds come to their variables, and nothing is under way in the variables that are installed. -/
structure Sound (s : Session) : Prop where
  builds : ∀ build, some build ∈ s.builds → ∃ env : Environment, build.outcome = env.outcome
  statics : ∀ env, s.subject.statics = some env → env.calls = []

theorem exists_env_of_beginStatic {i : Instance} {journal later : Journal} {build : StaticBuild}
    (begun : i.beginStatic journal = some (build, later)) :
    ∃ env : Environment, build.outcome = env.outcome := by
  obtain ⟨_, _, _, _, _, outcome⟩ := Instance.beginStatic_eq_some begun
  exact ⟨_, outcome⟩

theorem calls_of_environment? {build : StaticBuild} {calls : Calls} {env : Environment}
    (comes : ∃ env : Environment, build.outcome = env.outcome)
    (settled : build.environment? calls = some env) : env.calls = [] := by
  obtain ⟨begun, outcome⟩ := comes
  rw [StaticBuild.environment?, outcome] at settled
  exact Environment.calls_of_value?_outcome settled

theorem Sound.finishStatic {s : Session} (sound : s.Sound) (id : Nat) :
    (s.finishStatic id).2.Sound := by
  unfold Session.finishStatic
  split
  · exact sound
  · next build found =>
    dsimp only
    split
    · exact ⟨sound.builds, sound.statics⟩
    · next env settled =>
      have member : some build ∈ s.builds := List.mem_of_getElem? (Option.join_eq_some_iff.mp found)
      have landed := calls_of_environment? (sound.builds build member) settled
      refine ⟨fun other listed => ?_, fun installed held => ?_⟩
      · rcases List.mem_or_eq_of_mem_set listed with old | new
        · exact sound.builds other old
        · cases new
      · unfold Instance.finishStatic at held
        split at held
        · rw [← Option.some.inj held]
          exact landed
        · exact sound.statics installed held

theorem Sound.step {s : Session} (sound : s.Sound) (command : Command) :
    (s.step command).2.Sound := by
  cases command with
  | setConfig config =>
    cases checked : config.validate with
    | ok _ =>
      simp only [Session.step, Instance.setConfig_of_valid _ _ _ checked]
      exact ⟨sound.builds, nofun⟩
    | error error =>
      simp only [Session.step, Instance.setConfig_of_invalid _ _ _ _ checked]
      exact sound
  | setGlobals globals => exact ⟨sound.builds, nofun⟩
  | setHost host => exact ⟨sound.builds, sound.statics⟩
  | loadHelpers => exact ⟨sound.builds, sound.statics⟩
  | prepare =>
    -- A preparation begins its build and settles it at once, so no record holds that build.
    refine ⟨sound.builds, fun env held => ?_⟩
    have held : (s.subject.prepare s.journal).2.1.statics = some env := held
    rcases s.subject.prepare_cases s.journal with
      same | ⟨build, started, installed, _, begun, settled, prepared⟩
    · rw [same] at held
      exact sound.statics env held
    · rw [prepared] at held
      rw [← Option.some.inj held]
      exact calls_of_environment? (exists_env_of_beginStatic begun) settled
  | beginStatic =>
    show s.beginStatic.2.Sound
    unfold Session.beginStatic
    split
    · exact sound
    · next build _ begun =>
      refine ⟨fun other listed => ?_, sound.statics⟩
      rcases List.mem_append.mp listed with old | new
      · exact sound.builds other old
      · obtain rfl := Option.some.inj (List.mem_singleton.mp new)
        exact exists_env_of_beginStatic begun
  | finishStatic id => exact sound.finishStatic id
  | release gate result => exact ⟨sound.builds, sound.statics⟩
  | shouldUpdate previous => exact ⟨sound.builds, sound.statics⟩
  | render =>
    show s.render.2.Sound
    unfold Session.render
    split
    · exact sound
    · next rendered =>
      have same := Instance.render_eq_some rendered
      split <;> exact ⟨sound.builds, fun env held => sound.statics env (by rwa [same] at held)⟩
  | pollRender id =>
    show (s.pollRender id).2.Sound
    unfold Session.pollRender
    split
    · exact sound
    · dsimp only
      split <;> exact ⟨sound.builds, sound.statics⟩
  | evaluate source => exact ⟨sound.builds, sound.statics⟩

theorem Sound.after {s : Session} (sound : s.Sound) (commands : List Command) :
    (s.after commands).Sound := by
  induction commands generalizing s with
  | nil => exact sound
  | cons command rest ih => exact ih (sound.step command)

theorem sound_start (engine : Engine) : Sound { subject := { engine } } :=
  ⟨nofun, nofun⟩

theorem renders_step (s : Session) {command : Command} {id : Nat}
    (other : command ≠ .pollRender id) (inside : id < s.renders.length) :
    (s.step command).2.renders[id]? = s.renders[id]? := by
  cases command with
  | setConfig config =>
    simp only [step]
    split <;> rfl
  | beginStatic =>
    simp only [step, beginStatic]
    split <;> rfl
  | finishStatic build =>
    simp only [step, finishStatic]
    split
    · rfl
    · split <;> rfl
  | render =>
    simp only [step, render]
    split
    · rfl
    · split
      · rfl
      · exact List.getElem?_append_left inside
  | pollRender taken =>
    have differ : taken ≠ id := fun same => other (congrArg Command.pollRender same)
    simp only [step, pollRender]
    split
    · rfl
    · split <;> exact List.getElem?_set_ne differ
  | _ => rfl

end Session

end LiveConfig
