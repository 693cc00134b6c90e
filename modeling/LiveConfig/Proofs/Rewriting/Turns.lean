import LiveConfig.Proofs.Rewriting.Observing
import LiveConfig.Walk

set_option autoImplicit false

namespace LiveConfig

namespace Walk

/-- Takes up what has arrived for one of the awaited places. -/
def takeUp (state : Walk × Journal) (place : Nat) : Walk × Journal :=
  match state.1.awaited[place]? with
  | none => state
  | some (path, d) =>
    let journal := state.2.poll d.calls
    match d.value? journal.calls with
    | some value =>
      ({ tree := state.1.tree.set path (.ready value)
         awaited := state.1.awaited.eraseIdx place }, journal)
    | none => (state.1, journal)

end Walk

/-- What may happen next while a walk is under way. -/
inductive Turn where
  /-- Something else starts a call. -/
  | start (blame : Option String) (reply : Reply)
  | release (gate : String) (result : HostResult)
  | rejectWaiting (message : String)
  /-- Something else takes up a result. -/
  | observe (id : CallId)
  /-- The walk looks at one of its places. -/
  | takeUp (place : Nat)
  /-- The walk looks at all its places. -/
  | poll

namespace Turn

def take (state : Walk × Journal) : Turn → Walk × Journal
  | .start blame reply => (state.1, (state.2.start blame reply).2)
  | .release gate result => (state.1, state.2.release gate result)
  | .rejectWaiting message => (state.1, state.2.rejectWaiting message)
  | .observe id => (state.1, state.2.observe id)
  | .takeUp place => Walk.takeUp state place
  | .poll => state.1.poll state.2

def takeAll (turns : List Turn) (state : Walk × Journal) : Walk × Journal :=
  turns.foldl take state

theorem takeAll_append (turns more : List Turn) (state : Walk × Journal) :
    takeAll (turns ++ more) state = takeAll more (takeAll turns state) :=
  List.foldl_append

end Turn

namespace Walk

def pollPlace (state : Walk × Journal) (place : Path × Deferred Value) : Walk × Journal :=
  let journal := state.2.poll place.2.calls
  match place.2.value? journal.calls with
  | some value => ({ state.1 with tree := state.1.tree.set place.1 (.ready value) }, journal)
  | none => ({ state.1 with awaited := state.1.awaited ++ [place] }, journal)

theorem poll_eq_foldl (walk : Walk) (journal : Journal) :
    walk.poll journal = walk.awaited.foldl pollPlace ({ tree := walk.tree }, journal) := rfl

/-- A poll goes through the places one by one: those that stay awaited stand before the rest. -/
theorem foldl_pollPlace (tree : Partial) (kept rest : List (Path × Deferred Value))
    (journal : Journal) : ∃ places : List Nat,
      rest.foldl pollPlace ({ tree := tree, awaited := kept }, journal) =
        places.foldl takeUp ({ tree := tree, awaited := kept ++ rest }, journal) := by
  induction rest generalizing tree kept journal with
  | nil => exact ⟨[], by simp⟩
  | cons place rest ih =>
    obtain ⟨path, d⟩ := place
    have here : (kept ++ (path, d) :: rest)[kept.length]? = some (path, d) := by simp
    rw [List.foldl_cons]
    cases arrived : d.value? (journal.poll d.calls).calls with
    | some value =>
      obtain ⟨places, same⟩ := ih (tree.set path (.ready value)) kept (journal.poll d.calls)
      refine ⟨kept.length :: places, ?_⟩
      simp only [pollPlace, arrived, same, List.foldl_cons, takeUp, here]
      simp [List.eraseIdx_append_of_length_le]
    | none =>
      obtain ⟨places, same⟩ := ih tree (kept ++ [(path, d)]) (journal.poll d.calls)
      refine ⟨kept.length :: places, ?_⟩
      simp only [pollPlace, arrived, same, List.foldl_cons, takeUp, here]
      simp

theorem poll_eq_foldl_takeUp (walk : Walk) (journal : Journal) :
    ∃ places : List Nat, walk.poll journal = places.foldl takeUp (walk, journal) := by
  rw [poll_eq_foldl]
  exact foldl_pollPlace walk.tree [] walk.awaited journal

/-- What every taking up keeps is kept by a poll. -/
theorem poll_induction {P : Walk × Journal → Prop}
    (step : ∀ state place, P state → P (takeUp state place)) {state : Walk × Journal}
    (here : P state) : P (state.1.poll state.2) := by
  obtain ⟨places, same⟩ := state.1.poll_eq_foldl_takeUp state.2
  rw [same]
  exact List.foldlRecOn places takeUp here fun state kept place _ => step state place kept

theorem journal_takeUp (state : Walk × Journal) (place : Nat) :
    ∃ ids, (takeUp state place).2 = state.2.poll ids := by
  unfold takeUp
  split
  · exact ⟨[], rfl⟩
  · next path d _ =>
    refine ⟨d.calls, ?_⟩
    dsimp only
    split <;> rfl

theorem journal_poll (walk : Walk) (journal : Journal) :
    ∃ ids, (walk.poll journal).2 = journal.poll ids := by
  refine @poll_induction (fun next => ∃ ids, next.2 = journal.poll ids) ?_ (walk, journal) ⟨[], rfl⟩
  rintro next place ⟨before, same⟩
  obtain ⟨ids, polled⟩ := journal_takeUp next place
  exact ⟨before ++ ids, by rw [polled, same, Journal.poll_append]⟩

theorem value?_poll_eq_none_iff (journal : Journal) (d : Deferred Value) :
    d.value? (journal.poll d.calls).calls = none ↔
      d.calls.all journal.calls.isFinished = false := by
  have settled : d.isSettled (journal.poll d.calls).calls =
      d.calls.all journal.calls.isFinished := journal.allObserved_poll d.calls
  rw [Deferred.value?, settled]
  cases d.calls.all journal.calls.isFinished <;> simp

theorem awaited_foldl_pollPlace (rest : List (Path × Deferred Value)) (state : Walk × Journal) :
    (rest.foldl pollPlace state).1.awaited = state.1.awaited ++
      rest.filter fun place => !place.2.calls.all state.2.calls.isFinished := by
  induction rest generalizing state with
  | nil => simp
  | cons place rest ih =>
    have finished : (pollPlace state place).2.calls.isFinished = state.2.calls.isFinished := by
      have kept : (pollPlace state place).2 = state.2.poll place.2.calls := by
        unfold pollPlace
        dsimp only
        split <;> rfl
      rw [kept]
      exact funext (state.2.isFinished_poll place.2.calls)
    have missing := value?_poll_eq_none_iff state.2 place.2
    rw [List.foldl_cons, ih, finished, List.filter_cons]
    cases arrived : place.2.value? (state.2.poll place.2.calls).calls with
    | some value =>
      have all : place.2.calls.all state.2.calls.isFinished = true := by
        refine eq_true_of_ne_false fun unfinished => ?_
        rw [missing.mpr unfinished] at arrived
        cases arrived
      simp [pollPlace, arrived, all]
    | none => simp [pollPlace, arrived, missing.mp arrived]

theorem awaited_poll (walk : Walk) (journal : Journal) :
    (walk.poll journal).1.awaited =
      walk.awaited.filter fun place => !place.2.calls.all journal.calls.isFinished := by
  rw [poll_eq_foldl]
  exact awaited_foldl_pollPlace walk.awaited ({ tree := walk.tree }, journal)

end Walk

theorem Turn.keep_take (turn : Turn) (state : Walk × Journal) :
    state.2.calls.Keep (turn.take state).2.calls := by
  cases turn with
  | start blame reply => exact state.2.keep_start blame reply
  | release gate result => exact state.2.keep_release gate result
  | rejectWaiting message => exact state.2.keep_rejectWaiting message
  | observe id => exact state.2.keep_observe id
  | takeUp place =>
    obtain ⟨ids, polled⟩ := Walk.journal_takeUp state place
    rw [take, polled]
    exact state.2.keep_poll ids
  | poll =>
    obtain ⟨ids, polled⟩ := state.1.journal_poll state.2
    rw [take, polled]
    exact state.2.keep_poll ids

theorem Turn.keep_takeAll (turns : List Turn) (state : Walk × Journal) :
    state.2.calls.Keep (Turn.takeAll turns state).2.calls := by
  induction turns generalizing state with
  | nil => exact .refl _
  | cons turn rest ih => exact (turn.keep_take state).trans (ih _)

end LiveConfig
