import LiveConfig.Proofs.Lifecycle.Rendering
import LiveConfig.Proofs.Rewriting.Forecast
import LiveConfig.Proofs.Rewriting.Tracking

set_option autoImplicit false

/- What a render comes to. When it is known what each gate will bring, the outcome is fixed by the
source of the render before anything is evaluated: however the calls are answered, whatever else
the journal is used for and whenever the render is taken up, no other outcome is reached, and
this one always can be. -/

namespace LiveConfig

/-- Calls that went further. Observed results stay, and nothing is different about what a call comes
to; more calls may have been started. -/
structure Calls.Passes (opens : String → HostResult) (before after : Calls) : Prop where
  keep : before.Keep after
  verdicts : before.map (Call.verdict opens) <+: after.map (Call.verdict opens)

section

variable {opens : String → HostResult}

namespace Calls

theorem Passes.refl (calls : Calls) : Passes opens calls calls :=
  ⟨.refl calls, List.prefix_rfl⟩

theorem Passes.trans {first second third : Calls} (before : Passes opens first second)
    (after : Passes opens second third) : Passes opens first third :=
  ⟨before.keep.trans after.keep, before.verdicts.trans after.verdicts⟩

theorem Passes.length_le {before after : Calls} (passes : Passes opens before after) :
    before.length ≤ after.length := by
  have shorter := passes.verdicts.length_le
  rwa [List.length_map, List.length_map] at shorter

theorem Passes.verdicts_eq {before after : Calls} (passes : Passes opens before after) {id : CallId}
    (started : id < before.length) : after.verdicts opens id = before.verdicts opens id := by
  obtain ⟨fresh, split⟩ := passes.verdicts
  have inside : id < (before.map (Call.verdict opens)).length := by
    rwa [List.length_map]
  rw [Calls.verdicts, Calls.verdicts, ← List.getElem?_map, ← List.getElem?_map, ← split,
    List.getElem?_append_left inside]

theorem Passes.read_eq {α : Type} {before after : Calls} (passes : Passes opens before after)
    {d : Deferred α} (started : ∀ id ∈ d.calls, id < before.length) :
    d.read (after.verdicts opens) = d.read (before.verdicts opens) := by
  apply d.read_congr
  intro id waited
  exact passes.verdicts_eq (started id waited)

theorem passes_append (calls fresh : Calls) : Passes opens calls (calls ++ fresh) := by
  refine ⟨.append calls fresh, ?_⟩
  rw [List.map_append]
  exact List.prefix_append _ _

theorem Extends.passes {first last : Calls} (grown : first.Extends last) :
    Passes opens first last := by
  obtain ⟨fresh, rfl, _⟩ := grown
  exact passes_append first fresh

end Calls

namespace Journal

theorem passes_start (journal : Journal) (blame : Option String) (reply : Reply) :
    journal.calls.Passes opens (journal.start blame reply).2.calls :=
  Calls.passes_append journal.calls _

theorem passes_release (journal : Journal) (gate : String) :
    journal.calls.Passes opens (journal.release gate (opens gate)).calls :=
  ⟨journal.keep_release gate (opens gate), (continues_release 0 journal gate).verdicts ▸
    List.prefix_rfl⟩

theorem passes_observe (journal : Journal) (id : CallId) :
    journal.calls.Passes opens (journal.observe id).calls :=
  ⟨journal.keep_observe id, (continues_observe journal (Nat.zero_le id)).verdicts ▸
    List.prefix_rfl⟩

theorem passes_poll (journal : Journal) (ids : List CallId) :
    journal.calls.Passes opens (journal.poll ids).calls := by
  induction ids generalizing journal with
  | nil => exact .refl journal.calls
  | cons id rest ih => exact (journal.passes_observe id).trans (ih (journal.observe id))

def openAll (opens : String → HostResult) (gates : List String) (journal : Journal) : Journal :=
  gates.foldl (fun journal gate => journal.release gate (opens gate)) journal

theorem calls_openAll (opens : String → HostResult) (gates : List String) (journal : Journal) :
    (journal.openAll opens gates).calls = journal.calls.map fun call =>
      gates.foldl (fun call gate => call.release gate (opens gate)) call := by
  induction gates generalizing journal with
  | nil => simp [openAll]
  | cons gate rest ih =>
    refine (ih (journal.release gate (opens gate))).trans ?_
    simp [release, Function.comp_def]

theorem exists_isFinished_openAll (opens : String → HostResult) (journal : Journal) :
    ∃ gates, ∀ id < journal.calls.length,
      (journal.openAll opens gates).calls.isFinished id = true := by
  refine ⟨Walk.gatesOf journal.calls, fun id inside => ?_⟩
  rw [calls_openAll]
  exact Walk.isFinished_openGates opens inside

end Journal

theorem Deferred.eq_of_value? {α : Type} {calls : Calls} {d : Deferred α} {value : α}
    (arrived : d.value? calls = some value) (opens : String → HostResult) :
    value = d.read (calls.verdicts opens) := by
  unfold value? at arrived
  split at arrived
  · next settled =>
    rw [← Option.some.inj arrived]
    apply d.read_congr
    intro id waited
    have observed := List.all_eq_true.mp settled id waited
    obtain ⟨call, found, answer, _⟩ := Calls.of_isObserved observed opens
    rw [answer, Calls.verdicts, found]
    rfl
  · cases arrived

theorem Deferred.exists_value?_poll {α : Type} (d : Deferred α) {journal : Journal}
    (finished : ∀ id ∈ d.calls, journal.calls.isFinished id = true) :
    ∃ value, d.value? (journal.poll d.calls).calls = some value := by
  have settled : d.isSettled (journal.poll d.calls).calls = true :=
    (journal.allObserved_poll d.calls).trans (List.all_eq_true.mpr finished)
  exact ⟨_, if_pos settled⟩

namespace Walk

/-- A walk under way that will come to a value. -/
structure Bound (opens : String → HostResult) (tree : Value) (results : Results) (value : Value)
    (state : Walk × Journal) : Prop where
  distinct : tree.Distinct
  paths : results.map Prod.fst = (tree.strings []).map Prod.fst
  settling : Settling tree results state
  placed : ∀ result ∈ results, ∀ id ∈ result.2.calls, id < state.2.calls.length
  started : ∀ id ∈ (tree.graft results.node).calls, id < state.2.calls.length
  value_eq : (tree.graft results.node).read (state.2.calls.verdicts opens) = value

theorem passes_poll (walk : Walk) (journal : Journal) :
    journal.calls.Passes opens (walk.poll journal).2.calls := by
  obtain ⟨ids, polled⟩ := walk.journal_poll journal
  rw [polled]
  exact journal.passes_poll ids

namespace Bound

variable {tree value : Value} {results : Results} {state : Walk × Journal}

theorem expects (bound : Bound opens tree results value state) : Expects tree results state :=
  ⟨bound.distinct, bound.paths, bound.settling, bound.placed⟩

theorem pass (bound : Bound opens tree results value state) {journal : Journal}
    (passes : state.2.calls.Passes opens journal.calls) :
    Bound opens tree results value (state.1, journal) :=
  { bound.expects.pass ⟨passes.keep, passes.length_le⟩ with
    started := fun id waited => Nat.lt_of_lt_of_le (bound.started id waited) passes.length_le
    value_eq := (passes.read_eq (d := (tree.graft results.node).deferred) bound.started).trans
      bound.value_eq }

theorem poll (bound : Bound opens tree results value state) :
    Bound opens tree results value (state.1.poll state.2) :=
  { bound.pass (passes_poll state.1 state.2) with
    settling := bound.settling.take bound.distinct bound.paths .poll }

theorem toValue_eq (bound : Bound opens tree results value state)
    (done : state.1.isDone = true) : state.1.tree.toValue state.2.calls = value := by
  obtain ⟨arrived, _⟩ := bound.settling.of_isDone bound.distinct bound.paths done
  have settled := (bound.settling.value?_deferred_eq_some_iff bound.distinct bound.paths).mpr
    ⟨arrived, rfl⟩
  exact (Deferred.eq_of_value? settled opens).trans bound.value_eq

theorem isDone_poll (bound : Bound opens tree results value state)
    (finished : ∀ result ∈ results, ∀ id ∈ result.2.calls, state.2.calls.isFinished id = true) :
    (state.1.poll state.2).1.isDone = true :=
  bound.expects.isDone_poll finished

end Bound

theorem isFinished_poll (walk : Walk) (journal : Journal) (id : CallId) :
    (walk.poll journal).2.calls.isFinished id = journal.calls.isFinished id := by
  obtain ⟨ids, polled⟩ := walk.journal_poll journal
  rw [polled, journal.isFinished_poll]

/-- A walk is bound to come to its forecast. -/
theorem bound_run (engine : Engine) (opens : String → HostResult) {scope : Scope}
    {journal : Journal} (steady : scope.Steady journal.calls) {tree : Value}
    (distinct : tree.Distinct) :
    ∃ results, Bound opens tree results
      ((forecast engine opens (scope.foretell (journal.calls.verdicts opens)) tree).tree.read
        .unread) (run engine scope tree journal) := by
  obtain ⟨visits, visited⟩ := visited_run engine scope distinct journal
  have foretold := foretold_run engine opens steady tree
  refine ⟨_, distinct, visited.paths_results, visited.settling, ?_, ?_, ?_⟩
  · intro result member id waited
    exact (visited.own result member id waited).2
  · intro id waited
    rw [← visited.tree_eq, Partial.calls_eq_flatMap] at waited
    obtain ⟨d, flies, inside⟩ := List.mem_flatMap.mp waited
    exact (foretold.underway d flies).2 id inside
  · rw [← visited.tree_eq, ← foretold.tree_eq, Partial.read_foretell]

end Walk

namespace Environment

/-- Nothing is under way in the variables. -/
def Landed (env : Environment) : Prop :=
  ∀ entry ∈ env.entries, entry.flying = []

theorem Landed.underway {env : Environment} (landed : env.Landed) (calls : Calls) :
    env.Underway calls := by
  intro entry member d flies
  rw [landed entry member] at flies
  cases flies

theorem Landed.foretell_eq {env : Environment} (landed : env.Landed) (answers : Answers) :
    env.foretell answers = env := by
  refine (env.mapEntries_congr _ id ?_).trans env.mapEntries_id
  intro entry member
  exact Partial.foretell_eq_self (landed entry member) answers

theorem landed_read (answers : Answers) (env : Environment) : (env.read answers).Landed := by
  intro entry member
  rw [read, entries_mapEntries] at member
  obtain ⟨before, _, rfl⟩ := List.mem_map.mp member
  rfl

theorem Underway.landed_read_outcome {calls : Calls} {env : Environment}
    (underway : env.Underway calls) (answers : Answers) : (env.outcome.read answers).Landed := by
  unfold outcome
  by_cases idle : env.calls = []
  · rw [if_pos (List.isEmpty_iff.mpr idle)]
    intro entry member
    exact (underway entry member).calls_eq_nil_iff.mp (calls_of_mem_entries idle member)
  · rw [if_neg fun empty => idle (List.isEmpty_iff.mp empty)]
    exact env.landed_read answers

theorem Underway.started {calls : Calls} {env : Environment} (underway : env.Underway calls)
    {d : Deferred Environment} (pending : env.outcome = .pending d) :
    ∀ id ∈ d.calls, id < calls.length := by
  intro id waited
  have calls_eq : d.calls = env.calls := by
    unfold outcome at pending
    split at pending
    · cases pending
    · rw [← Outcome.pending.inj pending]
  rw [calls_eq] at waited
  obtain ⟨entry, member, inside⟩ := List.mem_flatMap.mp waited
  rw [Partial.calls_eq_flatMap] at inside
  obtain ⟨leaf, flies, there⟩ := List.mem_flatMap.mp inside
  exact (underway entry member leaf flies).2 id there

end Environment

namespace RenderSource

def scope (source : RenderSource) (dynamics : Environment) : Scope :=
  { host := source.host, statics := some source.statics, dynamics := some dynamics }

/-- What a render comes to with the given dynamic variables. -/
def forecast (opens : String → HostResult) (source : RenderSource) (dynamics : Environment) :
    Rendered where
  kind := source.kind
  body := (Walk.forecast source.engine opens (source.scope dynamics) source.body).tree.read .unread
  style :=
    (Walk.forecast source.engine opens (source.scope dynamics) source.style).tree.read .unread

/-- A source with static variables that have landed, and without objects that have a name twice. -/
structure Formed (source : RenderSource) : Prop where
  statics : source.statics.calls = []
  body : source.body.Distinct
  style : source.style.Distinct

theorem Formed.steady {source : RenderSource} (formed : source.Formed) {dynamics : Environment}
    (landed : dynamics.Landed) (calls : Calls) : (source.scope dynamics).Steady calls where
  statics env held := by
    rw [← Option.some.inj held]
    exact formed.statics
  dynamics env held := by
    rw [← Option.some.inj held]
    exact landed.underway calls
  output := rfl

theorem foretell_scope (source : RenderSource) {dynamics : Environment} (landed : dynamics.Landed)
    (answers : Answers) : (source.scope dynamics).foretell answers = source.scope dynamics := by
  simp only [scope, Scope.foretell, Option.map_some, Option.map_none, landed.foretell_eq]

end RenderSource

namespace Rendering

/-- A render that is bound to have a certain outcome. -/
inductive Bound (opens : String → HostResult) (rendered : Rendered) :
    Rendering × Journal → Prop where
  | awaiting {source : RenderSource} {d : Deferred Environment} {journal : Journal}
      (formed : source.Formed) (started : ∀ id ∈ d.calls, id < journal.calls.length)
      (landed : (d.read (journal.calls.verdicts opens)).Landed)
      (rendered_eq : source.forecast opens (d.read (journal.calls.verdicts opens)) = rendered) :
      Bound opens rendered (.awaitingVariables source d, journal)
  | leaves {kind : Section} {body style : Walk} {journal : Journal} {bodyTree styleTree : Value}
      {bodyResults styleResults : Results} (kind_eq : kind = rendered.kind)
      (body_bound : Walk.Bound opens bodyTree bodyResults rendered.body (body, journal))
      (style_bound : Walk.Bound opens styleTree styleResults rendered.style (style, journal)) :
      Bound opens rendered (.leaves kind body style, journal)

variable {rendered : Rendered}

theorem bound_evaluate (opens : String → HostResult) {source : RenderSource}
    (formed : source.Formed) {dynamics : Environment} (landed : dynamics.Landed)
    (journal : Journal) :
    Bound opens (source.forecast opens dynamics) (evaluate source dynamics journal) := by
  have grown := (Walk.entered_run source.engine (source.scope dynamics) source.style
    (Walk.run source.engine (source.scope dynamics) source.body journal).2).extends
  obtain ⟨_, body⟩ := Walk.bound_run source.engine opens
    (formed.steady landed journal.calls) formed.body
  obtain ⟨_, style⟩ := Walk.bound_run source.engine opens
    (formed.steady landed
      (Walk.run source.engine (source.scope dynamics) source.body journal).2.calls) formed.style
  rw [source.foretell_scope landed] at body style
  exact .leaves rfl (body.pass grown.passes) style

theorem Bound.pass {rendering : Rendering} {journal later : Journal}
    (bound : Bound opens rendered (rendering, journal))
    (passes : journal.calls.Passes opens later.calls) :
    Bound opens rendered (rendering, later) := by
  cases bound with
  | @awaiting source d _ formed started landed rendered_eq =>
    have same := passes.read_eq started
    have still : ∀ id ∈ d.calls, id < later.calls.length := fun id waited =>
      Nat.lt_of_lt_of_le (started id waited) passes.length_le
    exact .awaiting formed still (same ▸ landed) (same ▸ rendered_eq)
  | leaves kind_eq body style => exact .leaves kind_eq (body.pass passes) (style.pass passes)

theorem poll_awaiting_of_missing (source : RenderSource) {d : Deferred Environment}
    {journal : Journal} (missing : d.value? (journal.poll d.calls).calls = none) :
    (awaitingVariables source d).poll journal =
      (.awaitingVariables source d, journal.poll d.calls) := by
  simp only [Rendering.poll, missing]

theorem poll_awaiting_of_arrived (source : RenderSource) {d : Deferred Environment}
    {journal : Journal} {dynamics : Environment}
    (arrived : d.value? (journal.poll d.calls).calls = some dynamics) :
    ∃ body style later,
      evaluate source dynamics (journal.poll d.calls) = (.leaves source.kind body style, later) ∧
        (awaitingVariables source d).poll journal = pollLeaves source.kind body style later := by
  refine ⟨_, _, _, rfl, ?_⟩
  simp only [Rendering.poll, arrived]
  rfl

theorem Bound.pollLeaves {kind : Section} {body style : Walk} {journal : Journal}
    (bound : Bound opens rendered (.leaves kind body style, journal)) :
    Bound opens rendered (pollLeaves kind body style journal) := by
  cases bound with
  | leaves kind_eq body_bound style_bound =>
    have polled := (style_bound.pass (Walk.passes_poll body journal)).poll
    exact .leaves kind_eq (body_bound.poll.pass (Walk.passes_poll style (body.poll journal).2))
      polled

/-- A render that is taken up is bound to the outcome it was bound to. -/
theorem Bound.poll {rendering : Rendering} {journal : Journal}
    (bound : Bound opens rendered (rendering, journal)) :
    Bound opens rendered (rendering.poll journal) := by
  cases bound with
  | leaves kind_eq body style => exact (Bound.leaves kind_eq body style).pollLeaves
  | @awaiting source d _ formed started landed rendered_eq =>
    have passes : journal.calls.Passes opens (journal.poll d.calls).calls :=
      journal.passes_poll d.calls
    cases arrived : d.value? (journal.poll d.calls).calls with
    | none =>
      rw [poll_awaiting_of_missing source arrived]
      exact (Bound.awaiting formed started landed rendered_eq).pass passes
    | some dynamics =>
      have same := Deferred.eq_of_value? arrived opens
      rw [← passes.read_eq started, ← same] at landed rendered_eq
      have evaluated := bound_evaluate opens formed landed (journal.poll d.calls)
      obtain ⟨body, style, later, evaluate_eq, poll_eq⟩ := poll_awaiting_of_arrived source arrived
      rw [rendered_eq, evaluate_eq] at evaluated
      rw [poll_eq]
      exact evaluated.pollLeaves

theorem bound_start {source : RenderSource} (formed : source.Formed)
    {dynamics forecast : Environment} {journal : Journal}
    (foretold : Environment.Foretold opens journal.calls dynamics forecast) :
    Bound opens (source.forecast opens (forecast.outcome.read .unread))
      (start source dynamics journal) := by
  have read := Environment.read_outcome_foretell foretold.underway (journal.calls.verdicts opens)
    .unread
  have landed := foretold.underway.landed_read_outcome (journal.calls.verdicts opens)
  rw [foretold.env_eq] at read
  rw [read]
  unfold start
  cases outcome : dynamics.outcome with
  | ready settled =>
    rw [outcome] at landed
    exact bound_evaluate opens formed landed journal
  | pending d =>
    rw [outcome] at landed
    exact .awaiting formed (foretold.underway.started outcome) landed rfl

/-- No other outcome is reached. -/
theorem Bound.rendered?_eq {state : Rendering × Journal} (bound : Bound opens rendered state)
    {reached : Rendered} (done : state.1.rendered? state.2.calls = some reached) :
    reached = rendered := by
  cases bound with
  | awaiting => cases done
  | @leaves kind body style journal _ _ _ _ kind_eq body_bound style_bound =>
    by_cases both : (body.isDone && style.isDone) = true
    · obtain ⟨body_done, style_done⟩ := Bool.and_eq_true_iff.mp both
      simp only [rendered?, both, if_true, Option.some.injEq] at done
      rw [← done, kind_eq, body_bound.toValue_eq body_done, style_bound.toValue_eq style_done]
    · simp only [rendered?, both, Bool.false_eq_true, if_false, reduceCtorEq] at done

theorem Bound.rendered?_pollLeaves {kind : Section} {body style : Walk} {journal : Journal}
    (bound : Bound opens rendered (.leaves kind body style, journal))
    (finished : ∀ id < journal.calls.length, journal.calls.isFinished id = true) :
    let last := Rendering.pollLeaves kind body style journal
    last.1.rendered? last.2.calls = some rendered := by
  intro last
  have done : last.1.rendered? last.2.calls ≠ none := by
    cases bound with
    | leaves _ body_bound style_bound =>
      have body_done : (body.poll journal).1.isDone = true := by
        apply body_bound.isDone_poll
        intro result member id waited
        exact finished id (body_bound.placed result member id waited)
      have style_done : (style.poll (body.poll journal).2).1.isDone = true := by
        apply (style_bound.pass (Walk.passes_poll body journal)).isDone_poll
        intro result member id waited
        show (body.poll journal).2.calls.isFinished id = true
        rw [body.isFinished_poll]
        exact finished id (style_bound.placed result member id waited)
      simp [last, Rendering.pollLeaves, rendered?, body_done, style_done]
  obtain ⟨reached, there⟩ := Option.ne_none_iff_exists'.mp done
  rw [there, bound.pollLeaves.rendered?_eq there]

/-- What a render and the journal may have become. The gates bring their results, calls are started
and observed elsewhere, and the render is taken up. -/
inductive Leads (opens : String → HostResult) (first : Rendering × Journal) :
    Rendering × Journal → Prop where
  | here : Leads opens first first
  | start {rendering : Rendering} {journal : Journal}
      (before : Leads opens first (rendering, journal)) (blame : Option String) (reply : Reply) :
      Leads opens first (rendering, (journal.start blame reply).2)
  | release {rendering : Rendering} {journal : Journal}
      (before : Leads opens first (rendering, journal)) (gate : String) :
      Leads opens first (rendering, journal.release gate (opens gate))
  | observe {rendering : Rendering} {journal : Journal}
      (before : Leads opens first (rendering, journal)) (id : CallId) :
      Leads opens first (rendering, journal.observe id)
  | poll {rendering : Rendering} {journal : Journal}
      (before : Leads opens first (rendering, journal)) :
      Leads opens first (rendering.poll journal)

theorem Leads.trans {first middle last : Rendering × Journal} (before : Leads opens first middle)
    (after : Leads opens middle last) : Leads opens first last := by
  induction after with
  | here => exact before
  | start _ blame reply ih => exact ih.start blame reply
  | release _ gate ih => exact ih.release gate
  | observe _ id ih => exact ih.observe id
  | poll _ ih => exact ih.poll

theorem Leads.openAll {first : Rendering × Journal} {rendering : Rendering} {journal : Journal}
    (before : Leads opens first (rendering, journal)) (gates : List String) :
    Leads opens first (rendering, journal.openAll opens gates) := by
  induction gates generalizing journal with
  | nil => exact before
  | cons gate rest ih => exact ih (before.release gate)

theorem Bound.leads {first last : Rendering × Journal} (bound : Bound opens rendered first)
    (leads : Leads opens first last) : Bound opens rendered last := by
  induction leads with
  | here => exact bound
  | start _ blame reply ih => exact ih.pass (Journal.passes_start _ blame reply)
  | release _ gate ih => exact ih.pass (Journal.passes_release _ gate)
  | observe _ id ih => exact ih.pass (Journal.passes_observe _ id)
  | poll _ ih => exact ih.poll

/-- A render comes to an outcome: no other one is reached, and from wherever it is this one can be
reached. -/
structure ComesTo (opens : String → HostResult) (rendered : Rendered)
    (first : Rendering × Journal) : Prop where
  only : ∀ later, Leads opens first later → ∀ reached,
    later.1.rendered? later.2.calls = some reached → reached = rendered
  possible : ∀ later, Leads opens first later →
    ∃ last, Leads opens later last ∧ last.1.rendered? last.2.calls = some rendered

theorem exists_finished (opens : String → HostResult) (rendering : Rendering) (journal : Journal) :
    ∃ later : Journal, Leads opens (rendering, journal) (rendering, later) ∧
      ∀ id < later.calls.length, later.calls.isFinished id = true := by
  obtain ⟨gates, finished⟩ := journal.exists_isFinished_openAll opens
  refine ⟨journal.openAll opens gates, Leads.here.openAll gates, ?_⟩
  intro id inside
  rw [Journal.calls_openAll, List.length_map] at inside
  exact finished id inside

theorem Bound.exists_rendered_of_leaves {kind : Section} {body style : Walk} {journal : Journal}
    (bound : Bound opens rendered (.leaves kind body style, journal)) :
    ∃ last, Leads opens (.leaves kind body style, journal) last ∧
      last.1.rendered? last.2.calls = some rendered := by
  obtain ⟨later, leads, finished⟩ := exists_finished opens (.leaves kind body style) journal
  exact ⟨_, leads.poll, (bound.leads leads).rendered?_pollLeaves finished⟩

/-- Variables that are awaited arrive first; what body and style start then is finished when the
gates are opened once more. -/
theorem Bound.exists_rendered {state : Rendering × Journal} (bound : Bound opens rendered state) :
    ∃ last, Leads opens state last ∧ last.1.rendered? last.2.calls = some rendered := by
  cases bound with
  | leaves kind_eq body style => exact (Bound.leaves kind_eq body style).exists_rendered_of_leaves
  | @awaiting source d journal formed started landed rendered_eq =>
    have bound := Bound.awaiting formed started landed rendered_eq
    obtain ⟨later, leads, finished⟩ := exists_finished opens (.awaitingVariables source d) journal
    have awaited : ∀ id ∈ d.calls, id < later.calls.length := by
      cases bound.leads leads with
      | awaiting _ started => exact started
    obtain ⟨dynamics, arrived⟩ :=
      d.exists_value?_poll fun id waited => finished id (awaited id waited)
    obtain ⟨body, style, last, _, poll_eq⟩ := poll_awaiting_of_arrived source arrived
    have polled := (bound.leads leads).poll
    have reached := leads.poll
    rw [poll_eq] at polled reached
    obtain ⟨final, onward, done⟩ := polled.exists_rendered_of_leaves
    exact ⟨final, reached.trans onward, done⟩

theorem Bound.comesTo {first : Rendering × Journal} (bound : Bound opens rendered first) :
    ComesTo opens rendered first where
  only _ leads _ done := (bound.leads leads).rendered?_eq done
  possible _ leads := (bound.leads leads).exists_rendered

end Rendering

/-- No object of the body or the style has a name twice. -/
structure Config.Distinct (config : Config) : Prop where
  body : ∀ kind body, config.body? = some (kind, body) → body.Distinct
  style : ∀ style, config.style = some style → style.Distinct

namespace Instance

/-- The outcome of a render of a ready instance. -/
def forecast? (opens : String → HostResult) (i : Instance) : Option Rendered := do
  let source ← i.renderSource?
  return source.forecast opens
    ((Environment.forecast i.engine opens source.host (some source.statics)
      i.globals.dynamicVariables (i.config.bind (·.dynamicVariables))).outcome.read .unread)

theorem renderSource?_eq_some {i : Instance} {source : RenderSource}
    (found : i.renderSource? = some source) : ∃ config host statics kind body,
      i.config = some config ∧ i.host = some host ∧ i.statics = some statics ∧
      config.body? = some (kind, body) ∧ source = {
        engine := i.engine, host, statics, kind, body
        style := config.style.getD .emptyObject } := by
  unfold renderSource? at found
  split at found
  · obtain ⟨config, configured, found⟩ := Option.bind_eq_some_iff.mp found
    obtain ⟨host, present, found⟩ := Option.bind_eq_some_iff.mp found
    obtain ⟨statics, built, found⟩ := Option.bind_eq_some_iff.mp found
    obtain ⟨⟨kind, body⟩, chosen, found⟩ := Option.bind_eq_some_iff.mp found
    exact ⟨config, host, statics, kind, body, configured, present, built, chosen,
      (Option.some.inj found).symm⟩
  · cases found

theorem exists_start_of_render {i after : Instance} {journal last : Journal} {rendering : Rendering}
    (landed : ∀ env, i.statics = some env → env.calls = [])
    (distinct : ∀ config, i.config = some config → config.Distinct)
    (started : i.render journal = some (rendering, after, last)) :
    ∃ source, i.renderSource? = some source ∧ source.engine = i.engine ∧ source.Formed ∧
      let built := Environment.build source.engine source.host .dynamic (some source.statics)
        i.globals.dynamicVariables (i.config.bind (·.dynamicVariables)) journal
      Rendering.start source built.1 built.2 = (rendering, last) := by
  obtain ⟨source, found, started⟩ := Option.bind_eq_some_iff.mp started
  obtain ⟨⟨dynamics, built⟩, building, started⟩ := Option.bind_eq_some_iff.mp started
  simp only [pure, Option.some.injEq, Prod.mk.injEq] at started
  obtain ⟨config, host, statics, kind, body, configured, _, installed, chosen, source_eq⟩ :=
    renderSource?_eq_some found
  have engine_eq : source.engine = i.engine := by rw [source_eq]
  have formed : source.Formed := by
    rw [source_eq]
    refine ⟨landed statics installed, (distinct config configured).body kind body chosen, ?_⟩
    cases styled : config.style with
    | none => exact .object List.nodup_nil (List.forall_mem_nil _)
    | some style => exact (distinct config configured).style style styled
  refine ⟨source, found, engine_eq, formed, ?_⟩
  unfold buildDynamic? Environment.buildDynamic? at building
  split at building
  · rw [engine_eq, Option.some.inj building]
    obtain ⟨rendering_eq, _, last_eq⟩ := started
    rw [← rendering_eq, ← last_eq]
  · cases building

/-- A render comes to its forecast, whatever journal it is started in. -/
theorem comesTo_of_render (opens : String → HostResult) {i after : Instance}
    {journal last : Journal} {rendering : Rendering}
    (landed : ∀ env, i.statics = some env → env.calls = [])
    (distinct : ∀ config, i.config = some config → config.Distinct)
    (started : i.render journal = some (rendering, after, last)) :
    ∃ rendered, i.forecast? opens = some rendered ∧
      Rendering.ComesTo opens rendered (rendering, last) := by
  obtain ⟨source, found, engine_eq, formed, start_eq⟩ :=
    exists_start_of_render landed distinct started
  have foretold := Environment.foretold_build source.engine opens source.host formed.statics
    i.globals.dynamicVariables (i.config.bind (·.dynamicVariables)) journal
  refine ⟨_, by rw [forecast?, found]; rfl, ?_⟩
  have bound := Rendering.bound_start formed foretold
  rw [start_eq, engine_eq] at bound
  exact bound.comesTo

/-- Renders come about in every journal, and all of them come to one outcome. -/
def RendersTo (opens : String → HostResult) (rendered : Rendered) (i : Instance) : Prop :=
  ∀ journal, ∃ rendering after last, i.render journal = some (rendering, after, last) ∧
    Rendering.ComesTo opens rendered (rendering, last)

theorem exists_rendersTo {i : Instance} {config : Config} (opens : String → HostResult)
    (ready : i.readiness = .ready) (configured : i.config = some config)
    (valid : config.validate = .ok ()) (distinct : config.Distinct)
    (landed : ∀ env, i.statics = some env → env.calls = []) :
    ∃ rendered, i.forecast? opens = some rendered ∧ i.RendersTo opens rendered := by
  have only (other : Config) (held : i.config = some other) : other = config := by
    rw [configured] at held
    exact (Option.some.inj held).symm
  have comes (journal : Journal) : ∃ rendered, i.forecast? opens = some rendered ∧
      ∃ rendering after last, i.render journal = some (rendering, after, last) ∧
        Rendering.ComesTo opens rendered (rendering, last) := by
    have renders : (i.render journal).isSome = true := by
      apply (isSome_render_iff _ _).mpr ready
      · intro other held
        rw [only other held]
        exact valid
      · intro env installed
        exact Environment.isSettled_of_calls_eq_nil (landed env installed) journal.calls
    obtain ⟨⟨rendering, after, last⟩, started⟩ := Option.isSome_iff_exists.mp renders
    obtain ⟨rendered, found, comesTo⟩ := comesTo_of_render opens landed
      (fun other held => only other held ▸ distinct) started
    exact ⟨rendered, found, rendering, after, last, started, comesTo⟩
  obtain ⟨rendered, found, _⟩ := comes {}
  refine ⟨rendered, found, ?_⟩
  intro journal
  obtain ⟨other, found', comesTo⟩ := comes journal
  obtain rfl : other = rendered := Option.some.inj (found'.symm.trans found)
  exact comesTo

end Instance

end

end LiveConfig
