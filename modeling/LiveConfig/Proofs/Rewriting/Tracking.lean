import LiveConfig.Proofs.Rewriting.Asynchrony
import LiveConfig.Proofs.Rewriting.Entering

set_option autoImplicit false

namespace LiveConfig

namespace Walk

/-- Each of the calls between the given numbers is observed or awaited. -/
def Tracks (first last : CallId) (state : Walk × Journal) : Prop :=
  ∀ id, first ≤ id → id < last → state.2.calls.isObserved id = true ∨
    ∃ place ∈ state.1.awaited, id ∈ place.2.calls

variable {first last : CallId}

theorem Tracks.visit {state : Walk × Journal} (tracks : Tracks first state.2.calls.length state)
    (engine : Engine) (scope : Scope) (leaf : Path × String) :
    Tracks first (visit engine scope state leaf).2.calls.length (visit engine scope state leaf) := by
  obtain ⟨walk, journal⟩ := state
  rw [visit_eq]
  generalize engine.draft _ .structural leaf.2 = draft
  intro id own started
  have length : (journal.enter draft).calls.length = journal.calls.length + draft.started.length :=
    List.length_append
  by_cases old : id < journal.calls.length
  · rcases tracks id own old with observed | ⟨place, awaited, inside⟩
    · exact Or.inl ((Calls.Keep.append journal.calls draft.started).isObserved observed)
    · refine Or.inr ⟨place, ?_, inside⟩
      cases draft.outcome journal.calls.length with
      | ready v => exact awaited
      | pending d => exact List.mem_append_left _ awaited
  · have waited : id ∈ (draft.outcome journal.calls.length).calls := by
      rw [draft.calls_outcome, List.mem_range'_1, ← length]
      exact ⟨Nat.le_of_not_lt old, started⟩
    cases outcome : draft.outcome journal.calls.length with
    | ready v =>
      rw [outcome] at waited
      cases waited
    | pending d =>
      rw [outcome] at waited
      exact Or.inr ⟨(leaf.1, d), List.mem_append_right _ (List.mem_singleton_self _), waited⟩

/-- A walk awaits all the calls it started. -/
theorem tracks_run (engine : Engine) (scope : Scope) (tree : Value) (journal : Journal) :
    Tracks journal.calls.length (run engine scope tree journal).2.calls.length
      (run engine scope tree journal) := by
  have strings (leaves : List (Path × String)) (state : Walk × Journal)
      (tracks : Tracks journal.calls.length state.2.calls.length state) :
      Tracks journal.calls.length (leaves.foldl (Walk.visit engine scope) state).2.calls.length
        (leaves.foldl (Walk.visit engine scope) state) := by
    induction leaves generalizing state with
    | nil => exact tracks
    | cons leaf rest ih => exact ih _ (tracks.visit engine scope leaf)
  refine strings _ _ fun id own started => ?_
  exact absurd started (Nat.not_lt.mpr own)

theorem Tracks.keep {state : Walk × Journal} (tracks : Tracks first last state) {journal : Journal}
    (keep : state.2.calls.Keep journal.calls) : Tracks first last (state.1, journal) :=
  fun id own started => (tracks id own started).imp_left keep.isObserved

theorem Tracks.takeUp {state : Walk × Journal} (tracks : Tracks first last state) (place : Nat) :
    Tracks first last (takeUp state place) := by
  unfold Walk.takeUp
  cases found : state.1.awaited[place]? with
  | none => exact tracks
  | some entry =>
    obtain ⟨path, d⟩ := entry
    have later := tracks.keep (state.2.keep_poll d.calls)
    cases arrived : d.value? (state.2.poll d.calls).calls with
    | none =>
      simp only [arrived]
      exact later
    | some value =>
      simp only [arrived]
      intro id own started
      rcases later id own started with observed | ⟨other, awaited, inside⟩
      · exact Or.inl observed
      · obtain ⟨k, here⟩ := List.getElem?_of_mem awaited
        by_cases same : k = place
        · subst same
          rw [found] at here
          obtain rfl := Option.some.inj here
          have settled := (Deferred.value?_eq_some_iff.mp arrived).1
          exact Or.inl (List.all_eq_true.mp settled id inside)
        · exact Or.inr ⟨other, List.mem_eraseIdx_iff_getElem?.mpr ⟨k, same, here⟩, inside⟩

theorem Tracks.take {state : Walk × Journal} (tracks : Tracks first last state) (turn : Turn) :
    Tracks first last (turn.take state) := by
  cases turn with
  | takeUp place => exact tracks.takeUp place
  | poll =>
    exact poll_induction (P := Tracks first last)
      (fun _ place later => Tracks.takeUp later place) tracks
  | start blame reply => exact tracks.keep (state.2.keep_start blame reply)
  | release gate result => exact tracks.keep (state.2.keep_release gate result)
  | rejectWaiting message => exact tracks.keep (state.2.keep_rejectWaiting message)
  | observe id => exact tracks.keep (state.2.keep_observe id)

theorem Tracks.takeAll {state : Walk × Journal} (tracks : Tracks first last state)
    (turns : List Turn) : Tracks first last (Turn.takeAll turns state) :=
  List.foldlRecOn turns Turn.take tracks fun _ later turn _ => Tracks.take later turn

theorem Tracks.isObserved {state : Walk × Journal} (tracks : Tracks first last state)
    (done : state.1.isDone = true) {id : CallId} (own : first ≤ id) (started : id < last) :
    state.2.calls.isObserved id = true := by
  rcases tracks id own started with observed | ⟨place, awaited, _⟩
  · exact observed
  · rw [List.isEmpty_iff.mp done] at awaited
    cases awaited

/-- A walk under way, whose strings came to the given results. -/
structure Expects (tree : Value) (results : Results) (state : Walk × Journal) : Prop where
  distinct : tree.Distinct
  paths : results.map Prod.fst = (tree.strings []).map Prod.fst
  settling : Settling tree results state
  placed : ∀ result ∈ results, ∀ id ∈ result.2.calls, id < state.2.calls.length

variable {tree : Value} {results : Results} {state : Walk × Journal}

theorem Visited.expects {engine : Engine} {scope : Scope} {start : Journal} {visits : Visits}
    (visited : Visited engine scope tree start (tree.strings []) visits state)
    (distinct : tree.Distinct) :
    Expects tree (Visits.results start.calls.length visits) state where
  distinct := distinct
  paths := visited.paths_results
  settling := visited.settling
  placed result member id waited := (visited.own result member id waited).2

namespace Expects

theorem pass (expects : Expects tree results state) {journal : Journal}
    (advance : state.2.calls.Advance journal.calls) :
    Expects tree results (state.1, journal) where
  distinct := expects.distinct
  paths := expects.paths
  settling := expects.settling.keep advance.keep
  placed result member id waited :=
    Nat.lt_of_lt_of_le (expects.placed result member id waited) advance.length_le

theorem poll (expects : Expects tree results state) :
    Expects tree results (state.1.poll state.2) := by
  obtain ⟨ids, polled⟩ := state.1.journal_poll state.2
  have length : (state.1.poll state.2).2.calls.length = state.2.calls.length := by
    rw [polled, Journal.length_poll]
  exact {
    distinct := expects.distinct
    paths := expects.paths
    settling := expects.settling.take expects.distinct expects.paths .poll
    placed := fun result member id waited => length ▸ expects.placed result member id waited }

theorem toValue_eq (expects : Expects tree results state) (done : state.1.isDone = true) :
    (tree.graft results.node).isSettled state.2.calls = true ∧ state.1.tree.toValue state.2.calls =
      (tree.graft results.node).read state.2.calls.answers := by
  obtain ⟨arrived, _⟩ := expects.settling.of_isDone expects.distinct expects.paths done
  have settled := (expects.settling.value?_deferred_eq_some_iff expects.distinct expects.paths).mpr
    ⟨arrived, rfl⟩
  rw [Partial.value?_deferred] at settled
  split at settled
  · next all =>
    exact ⟨all, (Option.some.inj settled).symm.trans (Partial.read_of_isSettled _ _ all).symm⟩
  · cases settled

theorem isDone_poll (expects : Expects tree results state)
    (finished : ∀ result ∈ results, ∀ id ∈ result.2.calls, state.2.calls.isFinished id = true) :
    (state.1.poll state.2).1.isDone = true := by
  apply (expects.settling.isDone_poll_iff expects.distinct expects.paths).mpr
  intro leaf member id waited
  have result := lookup_result expects.distinct expects.paths member
  exact finished _ (Results.mem_of_lookup result) id waited

end Expects

end Walk

end LiveConfig
