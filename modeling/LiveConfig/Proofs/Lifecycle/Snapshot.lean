import LiveConfig.Proofs.Lifecycle.Pursuit
import LiveConfig.Proofs.Lifecycle.Sessions
import LiveConfig.Proofs.Rewriting.Reporting

set_option autoImplicit false

namespace LiveConfig

namespace Environment

theorem calls_outcome (env : Environment) : env.outcome.calls = env.calls := by
  unfold outcome
  split
  · next idle => exact (List.isEmpty_iff.mp idle).symm
  · rfl

theorem isSettled_of_allObserved {env : Environment} {calls : Calls}
    (observed : calls.allObserved env.calls = true) : env.isSettled calls = true := by
  apply List.all_eq_true.mpr
  intro entry member
  rw [← Partial.allObserved_calls]
  apply List.all_eq_true.mpr
  intro id waited
  exact List.all_eq_true.mp observed id (List.mem_flatMap.mpr ⟨entry, member, waited⟩)

end Environment

namespace RenderSource

/-- The dynamic variables of a render, built in an empty journal. -/
def ownVariables (source : RenderSource) (globals locals : Option Declaration) :
    Environment × Journal :=
  Environment.build source.engine source.host .dynamic (some source.statics) globals locals {}

/-- The dynamic variables, once the calls that their build starts have the given results. -/
def dynamics (source : RenderSource) (globals locals : Option Declaration)
    (results : List HostResult) : Environment :=
  (source.ownVariables globals locals).1.outcome.read (Answers.ofList results)

/-- What a render comes to. The results of the calls that it starts are given in order: first those
of the dynamic variables, then those of the body, and last those of the style. -/
def settle (source : RenderSource) (globals locals : Option Declaration)
    (results : List HostResult) : Rendered :=
  let first := (source.ownVariables globals locals).2.calls.length
  source.outcome (source.dynamics globals locals (results.take first)) (results.drop first)

section

variable {source : RenderSource} (globals locals : Option Declaration) (base : Journal)

theorem length_build (formed : source.Formed) :
    (Environment.build source.engine source.host .dynamic (some source.statics) globals locals
        base).2.calls.length =
      base.calls.length + (source.ownVariables globals locals).2.calls.length := by
  rw [Environment.build_behind source.engine source.host formed.statics globals locals base]
  exact List.length_append

/-- Dynamic variables that have arrived are read with the results of their own calls, all of which
are observed. It makes no difference whether they are there at once. -/
theorem dynamics_of_value? (formed : source.Formed) (distinctGlobals : ∀ d ∈ globals, d.Distinct)
    (distinctLocals : ∀ d ∈ locals, d.Distinct) {calls : Calls} {dynamics : Environment}
    (arrived : (Environment.build source.engine source.host .dynamic (some source.statics) globals
      locals base).1.outcome.value? calls = some dynamics) :
    let own := List.range' base.calls.length (source.ownVariables globals locals).2.calls.length
    (∀ id ∈ own, calls.isObserved id = true) ∧ dynamics.calls = [] ∧
      dynamics = source.dynamics globals locals (calls.results own) := by
  intro own
  obtain ⟨observed, value⟩ := Outcome.value?_eq_some_iff.mp arrived
  rw [Environment.calls_outcome] at observed
  refine ⟨fun id member => ?_, Environment.calls_of_value?_outcome arrived, ?_⟩
  · obtain ⟨from_base, before_last⟩ := List.mem_range'_1.mp member
    rw [← length_build globals locals base formed] at before_last
    exact Environment.isObserved_of_isSettled source.engine source.host .dynamic
      (some source.statics) base
      (Environment.arranged_order _ (Merged.distinct_merge globals locals))
      (Environment.distinct_order distinctGlobals distinctLocals)
      (Environment.isSettled_of_allObserved observed) from_base before_last
  · have underway := (Environment.foretold_build source.engine (fun _ => .ok .null) source.host
      formed.statics globals locals {}).underway
    rw [← value, Environment.build_behind source.engine source.host formed.statics globals locals
      base, Environment.read_outcome_shift underway]
    apply Outcome.read_congr
    intro id waited
    rw [Environment.calls_outcome] at waited
    obtain ⟨entry, member, inside⟩ := List.mem_flatMap.mp waited
    rw [Partial.calls_eq_flatMap] at inside
    obtain ⟨leaf, flies, awaited⟩ := List.mem_flatMap.mp inside
    exact (Answers.ofList_results calls _ _ ((underway entry member leaf flies).2 id awaited)).symm

end

end RenderSource

namespace Rendering

/-- A render under way, with the calls that it has started so far. -/
inductive Snapshot (source : RenderSource) (globals locals : Option Declaration) (base : Journal) :
    List CallId → Rendering × Journal → Prop where
  | awaiting {d : Deferred Environment} {journal : Journal}
      (pending : (Environment.build source.engine source.host .dynamic (some source.statics)
        globals locals base).1.outcome = .pending d)
      (started : ∀ id ∈ d.calls, id < journal.calls.length) :
      Snapshot source globals locals base
        (List.range' base.calls.length (source.ownVariables globals locals).2.calls.length)
        (.awaitingVariables source d, journal)
  | leaves {awaited : List CallId} {first : CallId} {dynamics : Environment}
      {state : Rendering × Journal}
      (length : awaited.length = (source.ownVariables globals locals).2.calls.length)
      (observed : ∀ id ∈ awaited, state.2.calls.isObserved id = true)
      (arrived : dynamics.calls = [])
      (dynamics_eq : dynamics =
        source.dynamics globals locals (state.2.calls.results awaited))
      (pursues : Pursues source dynamics first state) :
      Snapshot source globals locals base
        (awaited ++ List.range' first (source.callCount dynamics)) state

section

variable {source : RenderSource} {globals locals : Option Declaration} {base : Journal}

theorem snapshot_evaluate (formed : source.Formed) (distinctGlobals : ∀ d ∈ globals, d.Distinct)
    (distinctLocals : ∀ d ∈ locals, d.Distinct) {journal : Journal} {dynamics : Environment}
    (arrived : (Environment.build source.engine source.host .dynamic (some source.statics) globals
      locals base).1.outcome.value? journal.calls = some dynamics) :
    Snapshot source globals locals base
      (List.range' base.calls.length (source.ownVariables globals locals).2.calls.length ++
        List.range' journal.calls.length (source.callCount dynamics))
      (evaluate source dynamics journal) := by
  obtain ⟨observed, idle, value⟩ := RenderSource.dynamics_of_value? globals locals base formed
    distinctGlobals distinctLocals arrived
  have advance := (entered_evaluate source dynamics journal).moves.advance
  refine .leaves List.length_range' ?_ idle ?_ (pursues_evaluate formed idle journal)
  · intro id member
    exact advance.keep.isObserved (observed id member)
  · rw [advance.results_eq observed]
    exact value

theorem Snapshot.pass {own : List CallId} {rendering : Rendering} {journal later : Journal}
    (snapshot : Snapshot source globals locals base own (rendering, journal))
    (advance : journal.calls.Advance later.calls) :
    Snapshot source globals locals base own (rendering, later) := by
  cases snapshot with
  | awaiting pending started =>
    exact .awaiting pending fun id waited =>
      Nat.lt_of_lt_of_le (started id waited) advance.length_le
  | leaves length observed arrived dynamics_eq pursues =>
    refine .leaves length (fun id member => advance.keep.isObserved (observed id member)) arrived ?_
      (pursues.pass advance)
    rw [advance.results_eq observed]
    exact dynamics_eq

variable (base) in
theorem snapshot_start (formed : source.Formed) (distinctGlobals : ∀ d ∈ globals, d.Distinct)
    (distinctLocals : ∀ d ∈ locals, d.Distinct) :
    let built := Environment.build source.engine source.host .dynamic (some source.statics) globals
      locals base
    let started := start source built.1 built.2
    Snapshot source globals locals base (base.since started.2) started := by
  intro built started
  have length : built.2.calls.length =
      base.calls.length + (source.ownVariables globals locals).2.calls.length :=
    RenderSource.length_build globals locals base formed
  cases outcome : built.1.outcome with
  | ready dynamics =>
    have arrived : built.1.outcome.value? built.2.calls = some dynamics := by rw [outcome]; rfl
    have idle := Environment.calls_of_value?_outcome arrived
    have started_eq : started = evaluate source dynamics built.2 := by
      simp only [started, start, outcome]
    have total := length_evaluate formed idle built.2
    have snapshot := snapshot_evaluate formed distinctGlobals distinctLocals arrived
    rw [length, Nat.add_assoc] at total
    rw [length, List.range'_append_1] at snapshot
    rw [started_eq, Journal.since_eq total]
    exact snapshot
  | pending d =>
    have started_eq : started = (.awaitingVariables source d, built.2) := by
      simp only [started, start, outcome]
    have underway := (Environment.foretold_build source.engine (fun _ => .ok .null) source.host
      formed.statics globals locals base).underway
    rw [started_eq, Journal.since_eq length]
    exact .awaiting outcome (underway.started outcome)

theorem length_pollLeaves (kind : Section) (body style : Walk) (journal : Journal) :
    (pollLeaves kind body style journal).2.calls.length = journal.calls.length := by
  obtain ⟨first, body_eq⟩ := body.journal_poll journal
  obtain ⟨second, style_eq⟩ := style.journal_poll (body.poll journal).2
  show (style.poll (body.poll journal).2).2.calls.length = _
  rw [style_eq, Journal.length_poll, body_eq, Journal.length_poll]

theorem Snapshot.pollLeaves {own : List CallId} {kind : Section} {body style : Walk}
    {journal : Journal}
    (snapshot : Snapshot source globals locals base own (.leaves kind body style, journal)) :
    Snapshot source globals locals base own (pollLeaves kind body style journal) := by
  have moved : journal.Moves (Rendering.pollLeaves kind body style journal).2 :=
    moves_pollLeaves kind body style .here
  have advance := moved.advance
  cases snapshot with
  | leaves length observed arrived dynamics_eq pursues =>
    refine .leaves length (fun id member => advance.keep.isObserved (observed id member)) arrived ?_
      pursues.pollLeaves
    rw [advance.results_eq observed]
    exact dynamics_eq

theorem Snapshot.poll (formed : source.Formed) (distinctGlobals : ∀ d ∈ globals, d.Distinct)
    (distinctLocals : ∀ d ∈ locals, d.Distinct) {own : List CallId} {rendering : Rendering}
    {journal : Journal} (snapshot : Snapshot source globals locals base own (rendering, journal)) :
    Snapshot source globals locals base (own ++ journal.since (rendering.poll journal).2)
      (rendering.poll journal) := by
  cases rendering with
  | leaves kind body style =>
    rw [Rendering.poll, Journal.since_eq_nil (length_pollLeaves kind body style journal),
      List.append_nil]
    exact snapshot.pollLeaves
  | awaitingVariables _ d =>
    cases snapshot with
    | leaves _ _ _ _ pursues => cases pursues
    | awaiting pending started =>
      cases arrived : d.value? (journal.poll d.calls).calls with
      | none =>
        have polled : journal.Moves (journal.poll d.calls) := Journal.Moves.here.poll d.calls
        rw [poll_awaiting_of_missing source arrived,
          Journal.since_eq_nil (journal.length_poll d.calls), List.append_nil]
        exact (Snapshot.awaiting pending started).pass polled.advance
      | some dynamics =>
        have there : (Environment.build source.engine source.host .dynamic (some source.statics)
            globals locals base).1.outcome.value? (journal.poll d.calls).calls = some dynamics := by
          rw [pending]
          exact arrived
        have snapshot := snapshot_evaluate formed distinctGlobals distinctLocals there
        have length := length_evaluate formed (Environment.calls_of_value?_outcome there)
          (journal.poll d.calls)
        obtain ⟨body, style, later, evaluate_eq, poll_eq⟩ := poll_awaiting_of_arrived source arrived
        rw [evaluate_eq, Journal.length_poll] at snapshot length
        rw [poll_eq, Journal.since_eq ((length_pollLeaves _ body style later).trans length)]
        exact snapshot.pollLeaves

/-- When nothing is under way any more, the render has observed all its calls, and comes to what
their results settle. -/
theorem Snapshot.rendered (formed : source.Formed) {own : List CallId} {state : Rendering × Journal}
    {reached : Rendered} (snapshot : Snapshot source globals locals base own state)
    (done : state.1.rendered? state.2.calls = some reached) :
    (∀ id ∈ own, state.2.calls.isObserved id = true) ∧
      reached = source.settle globals locals (state.2.calls.results own) := by
  cases snapshot with
  | awaiting => cases done
  | @leaves awaited _ _ _ length observed arrived dynamics_eq pursues =>
    obtain ⟨leaves_observed, value⟩ := pursues.rendered formed arrived done
    constructor
    · intro id member
      rcases List.mem_append.mp member with inside | inside
      · exact observed id inside
      · exact leaves_observed id inside
    · have results_length : (state.2.calls.results awaited).length =
          (source.ownVariables globals locals).2.calls.length := by
        rw [Calls.results, List.length_map, length]
      dsimp only [RenderSource.settle]
      rw [Calls.results_append, List.take_left' results_length, List.drop_left' results_length,
        ← dynamics_eq]
      exact value

theorem Snapshot.exists_poll_eq {own : List CallId} {rendering : Rendering} {journal : Journal}
    (snapshot : Snapshot source globals locals base own (rendering, journal))
    (finished : ∀ id < journal.calls.length, journal.calls.isFinished id = true) :
    ∃ kind body style later, rendering.poll journal = (.leaves kind body style, later) := by
  cases rendering with
  | leaves kind body style => exact ⟨_, _, _, _, rfl⟩
  | awaitingVariables _ d =>
    cases snapshot with
    | leaves _ _ _ _ pursues => cases pursues
    | awaiting pending started =>
      obtain ⟨dynamics, arrived⟩ :=
        d.exists_value?_poll fun id waited => finished id (started id waited)
      obtain ⟨body, style, later, -, poll_eq⟩ := poll_awaiting_of_arrived source arrived
      rw [poll_eq]
      exact ⟨_, _, _, _, rfl⟩

theorem Snapshot.isSome_rendered? {own : List CallId} {kind : Section} {body style : Walk}
    {journal : Journal}
    (snapshot : Snapshot source globals locals base own (.leaves kind body style, journal))
    (finished : ∀ id < journal.calls.length, journal.calls.isFinished id = true) :
    let last := Rendering.pollLeaves kind body style journal
    (last.1.rendered? last.2.calls).isSome = true := by
  cases snapshot with
  | leaves _ _ _ _ pursues => exact pursues.isSome_rendered? finished

end

end Rendering

end LiveConfig
