import LiveConfig.Instance
import LiveConfig.Proofs.Rewriting.Entering
import LiveConfig.Proofs.Rewriting.Turns

set_option autoImplicit false

namespace LiveConfig

namespace Journal

/-- A journal after some operations of an instance that install no static variables. -/
inductive Moves (first : Journal) : Journal → Prop where
  | here : Moves first first
  | enter {last : Journal} (before : Moves first last) (draft : Draft) :
      Moves first (last.enter draft)
  | observe {last : Journal} (before : Moves first last) (id : CallId) :
      Moves first (last.observe id)
  | warn {last : Journal} (before : Moves first last) (warning : ConfigWarning) :
      Moves first (last.emit (.configWarning warning))
  | ignore {last : Journal} (before : Moves first last) (complaint : EntityComplaint) :
      Moves first (last.emit (.entitiesIgnored complaint))

namespace Moves

variable {first middle last : Journal}

theorem trans (before : Moves first middle) (after : Moves middle last) : Moves first last := by
  induction after with
  | here => exact before
  | enter _ draft ih => exact ih.enter draft
  | observe _ id ih => exact ih.observe id
  | warn _ warning ih => exact ih.warn warning
  | ignore _ complaint ih => exact ih.ignore complaint

theorem entered (before : Moves first middle) (entered : middle.Entered last) :
    Moves first last := by
  induction entered with
  | nothing => exact before
  | draft _ draft ih => exact ih.enter draft

theorem poll (before : Moves first last) (ids : List CallId) : Moves first (last.poll ids) := by
  induction ids generalizing last with
  | nil => exact before
  | cons id rest ih => exact ih (before.observe id)

theorem warnings (before : Moves first last) (warnings : List ConfigWarning) :
    Moves first (warnings.foldl (fun journal w => journal.emit (.configWarning w)) last) := by
  induction warnings generalizing last with
  | nil => exact before
  | cons warning rest ih => exact ih (before.warn warning)

end Moves

end Journal

theorem Journal.Entered.moves {first last : Journal} (entered : first.Entered last) :
    first.Moves last :=
  Moves.here.entered entered

namespace Instance

variable {i : Instance} {journal : Journal}

theorem moves_beginStatic {build : StaticBuild} {later : Journal}
    (begun : i.beginStatic journal = some (build, later)) : journal.Moves later := by
  obtain ⟨config, _, begun⟩ := Option.bind_eq_some_iff.mp begun
  obtain ⟨host, _, begun⟩ := Option.bind_eq_some_iff.mp begun
  simp only [pure, Option.some.injEq, Prod.mk.injEq] at begun
  rw [← begun.2]
  exact (Environment.entered_build i.engine host none .static _ _ journal).moves

theorem moves_isObservable (engine : Engine) (old : HostState) (scope : Scope)
    (entities : Option Value) (journal : Journal) :
    journal.Moves (Change.isObservable engine old scope entities journal).2 := by
  unfold Change.isObservable
  split
  · exact .here
  · exact .here
  · next list _ =>
    have walked := (Walk.entered_run engine scope list journal).moves
    dsimp only
    split
    · exact walked
    · exact walked
    · exact walked.ignore _

theorem moves_shouldUpdate (i : Instance) (previous : Option HostState) (journal : Journal) :
    journal.Moves (i.shouldUpdate previous journal).2 := by
  unfold shouldUpdate
  split
  · exact .here
  · split
    · next previous host config statics _ _ _ =>
      cases found : Change.detect? i.engine previous host statics i.globals.dynamicVariables
          config.dynamicVariables config.entities journal with
      | none => exact .here
      | some answer =>
        obtain ⟨⟨dynamics, later⟩, built, answered⟩ := Option.bind_eq_some_iff.mp found
        have entered := Environment.entered_buildDynamic? built
        rw [← Option.some.inj answered]
        exact entered.moves.trans (moves_isObservable _ _ _ _ later)
    · exact .here

theorem moves_render {rendering : Rendering} {after : Instance} {later : Journal}
    (rendered : i.render journal = some (rendering, after, later)) : journal.Moves later := by
  obtain ⟨source, _, rendered⟩ := Option.bind_eq_some_iff.mp rendered
  obtain ⟨⟨dynamics, started⟩, built, rendered⟩ := Option.bind_eq_some_iff.mp rendered
  simp only [pure, Option.some.injEq, Prod.mk.injEq] at rendered
  have entered := Environment.entered_buildDynamic? built
  rw [← rendered.2.2]
  exact (entered.trans (Rendering.entered_start source dynamics started)).moves

theorem moves_evaluate (i : Instance) (source : String) (journal : Journal) :
    journal.Moves (i.evaluate source journal).2 := by
  rw [evaluate, Engine.evaluate, Engine.evaluateOr_eq]
  exact Journal.Moves.here.enter _

end Instance

theorem Walk.moves_poll {first : Journal} (walk : Walk) {journal : Journal}
    (before : first.Moves journal) : first.Moves (walk.poll journal).2 := by
  obtain ⟨ids, polled⟩ := walk.journal_poll journal
  rw [polled]
  exact before.poll ids

namespace Rendering

theorem moves_pollLeaves {first : Journal} (kind : Section) (body style : Walk) {journal : Journal}
    (before : first.Moves journal) : first.Moves (pollLeaves kind body style journal).2 :=
  style.moves_poll (body.moves_poll before)

theorem moves_poll (rendering : Rendering) (journal : Journal) :
    journal.Moves (rendering.poll journal).2 := by
  cases rendering with
  | leaves kind body style => exact moves_pollLeaves kind body style .here
  | awaitingVariables source d =>
    have polled : journal.Moves (journal.poll d.calls) := Journal.Moves.here.poll d.calls
    unfold poll
    dsimp only
    split
    · exact polled
    · next dynamics _ =>
      have evaluated := polled.entered (entered_evaluate source dynamics (journal.poll d.calls))
      exact moves_pollLeaves source.kind _ _ evaluated

end Rendering

namespace Journal

theorem Moves.advance {first last : Journal} (moves : Moves first last) :
    first.calls.Advance last.calls := by
  induction moves with
  | here => exact .refl _
  | enter _ draft ih =>
    refine ih.trans ⟨.append _ draft.started, ?_⟩
    rw [Journal.enter, List.length_append]
    exact Nat.le_add_right _ _
  | @observe last _ id ih =>
    exact ih.trans ⟨last.keep_observe id, Nat.le_of_eq (last.length_observe id).symm⟩
  | warn _ warning ih => exact ih
  | ignore _ complaint ih => exact ih

end Journal

end LiveConfig
