import LiveConfig.Proofs.Rewriting.Draft
import LiveConfig.Rendering

set_option autoImplicit false

namespace LiveConfig

namespace Journal

/-- A journal in which some more drafts are entered. -/
inductive Entered (first : Journal) : Journal → Prop where
  | nothing : Entered first first
  | draft {last : Journal} (before : Entered first last) (draft : Draft) :
      Entered first (last.enter draft)

namespace Entered

variable {first middle last : Journal}

theorem trans (before : Entered first middle) (after : Entered middle last) :
    Entered first last := by
  induction after with
  | nothing => exact before
  | draft _ draft ih => exact ih.draft draft

theorem calls_eq (entered : Entered first last) :
    ∃ fresh : Calls, last.calls = first.calls ++ fresh ∧ fresh.Unobserved := by
  induction entered with
  | nothing => exact ⟨[], by simp, nofun⟩
  | draft _ draft ih =>
    obtain ⟨fresh, calls, unobserved⟩ := ih
    refine ⟨fresh ++ draft.started, ?_, unobserved.append draft.unobserved_started⟩
    simp only [enter, calls, List.append_assoc]

theorem events_eq (entered : Entered first last) :
    ∃ reports : List Event, last.events = first.events ++ reports ∧
      ∀ event ∈ reports, ∃ source failure, event = .expressionFailed source failure := by
  induction entered with
  | nothing => exact ⟨[], by simp, nofun⟩
  | draft _ draft ih =>
    obtain ⟨reports, events, failures⟩ := ih
    refine ⟨reports ++ draft.reported, ?_, ?_⟩
    · simp only [enter, events, List.append_assoc]
    · intro event member
      rcases List.mem_append.mp member with earlier | new
      · exact failures event earlier
      · obtain ⟨piece, _, reported⟩ := List.mem_flatMap.mp new
        cases piece with
        | value v => cases reported
        | call source fallback reply => cases reported
        | failed source fallback failure =>
          exact ⟨source, failure, List.mem_singleton.mp reported⟩

end Entered

end Journal

theorem Engine.entered_evaluateTemplate (engine : Engine) (scope : Scope) (mode : Mode)
    (template : String) (journal : Journal) :
    journal.Entered (engine.evaluateTemplate scope mode template journal).2 := by
  rw [engine.evaluateTemplate_eq]
  exact Journal.Entered.nothing.draft _

/-- One more string is evaluated against the tree as it stands, and written to its place. -/
theorem Walk.visit_eq (engine : Engine) (scope : Scope) (walk : Walk) (journal : Journal)
    (leaf : Path × String) :
    let draft := engine.draft { scope with output := some walk.tree, calls := journal.calls }
      .structural leaf.2
    visit engine scope (walk, journal) leaf =
      (walk.write (journal.enter draft).calls leaf.1 (draft.outcome journal.calls.length),
        journal.enter draft) := by
  have evaluated := engine.evaluateTemplate_eq { scope with output := some walk.tree } .structural
    leaf.2 journal
  simp only [visit, evaluated]

theorem Walk.entered_run (engine : Engine) (scope : Scope) (tree : Value) (journal : Journal) :
    journal.Entered (run engine scope tree journal).2 := by
  unfold run
  generalize tree.strings [] = leaves
  generalize ({ tree := Partial.ofValue tree } : Walk) = walk
  induction leaves generalizing walk journal with
  | nil => exact .nothing
  | cons leaf rest ih =>
    rw [List.foldl_cons]
    have first := engine.entered_evaluateTemplate { scope with output := some walk.tree }
      .structural leaf.2 journal
    exact first.trans (ih _ _)

namespace Environment

section

variable (engine : Engine) (host : HostState) (statics : Option Environment)

theorem entered_evaluateEntry (scope : Scope) (value : Value) (journal : Journal) :
    journal.Entered (evaluateEntry engine scope value journal).2 := by
  cases value with
  | text template => exact engine.entered_evaluateTemplate scope .declaration template journal
  | array items => exact Walk.entered_run engine scope (.array items) journal
  | object fields => exact Walk.entered_run engine scope (.object fields) journal
  | null => exact .nothing
  | bool b => exact .nothing
  | number x => exact .nothing

theorem entered_extend (state : Environment × Journal) (entry : Option String × Value) :
    state.2.Entered (extend engine host statics state entry).2 := by
  have evaluated := entered_evaluateEntry engine (entryScope host statics state.1) entry.2 state.2
  unfold extend
  dsimp only
  split <;> exact evaluated

theorem entered_foldl (entries : List (Option String × Value)) (state : Environment × Journal) :
    state.2.Entered (entries.foldl (extend engine host statics) state).2 := by
  induction entries generalizing state with
  | nil => exact .nothing
  | cons entry rest ih => exact (entered_extend engine host statics state entry).trans (ih _)

theorem entered_build (tier : Tier) (globals locals : Option Declaration) (journal : Journal) :
    journal.Entered (build engine host tier statics globals locals journal).2 :=
  entered_foldl engine host statics _ ({ tier }, journal)

end

theorem entered_buildDynamic? {engine : Engine} {host : HostState} {statics dynamics : Environment}
    {globals locals : Option Declaration} {journal later : Journal}
    (built : buildDynamic? engine host statics globals locals journal = some (dynamics, later)) :
    journal.Entered later := by
  unfold buildDynamic? at built
  split at built
  · have entered := entered_build engine host (some statics) .dynamic globals locals journal
    rw [Option.some.inj built] at entered
    exact entered
  · cases built

end Environment

namespace Rendering

theorem entered_evaluate (source : RenderSource) (dynamics : Environment) (journal : Journal) :
    journal.Entered (evaluate source dynamics journal).2 :=
  (Walk.entered_run _ _ source.body journal).trans (Walk.entered_run _ _ source.style _)

theorem entered_start (source : RenderSource) (dynamics : Environment) (journal : Journal) :
    journal.Entered (start source dynamics journal).2 := by
  unfold start
  split
  · exact entered_evaluate source _ journal
  · exact .nothing

end Rendering

end LiveConfig
