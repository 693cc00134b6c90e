import LiveConfig.Proofs.Lifecycle.Arrival
import LiveConfig.Proofs.Lifecycle.Moving
import LiveConfig.Proofs.Variables.Isolation

set_option autoImplicit false

namespace LiveConfig

/-- The results of some calls, in order. -/
def Calls.results (calls : Calls) (ids : List CallId) : List HostResult :=
  ids.map calls.answers

theorem Calls.results_append (calls : Calls) (first second : List CallId) :
    calls.results (first ++ second) = calls.results first ++ calls.results second :=
  List.map_append

/-- Answers to calls that are numbered from zero. -/
def Answers.ofList (results : List HostResult) : Answers :=
  fun id => results[id]?.getD (.ok .null)

theorem Answers.ofList_results (calls : Calls) (first count : CallId) {id : CallId}
    (inside : id < count) :
    ofList (calls.results (List.range' first count)) id = calls.answers (first + id) := by
  rw [ofList, Calls.results, List.getElem?_map, List.getElem?_range' inside, Nat.one_mul]
  rfl

theorem Calls.Advance.results_eq {calls later : Calls} (advance : calls.Advance later)
    {ids : List CallId} (observed : ∀ id ∈ ids, calls.isObserved id = true) :
    later.results ids = calls.results ids := by
  refine List.map_congr_left fun id member => ?_
  obtain ⟨result, found⟩ := Option.isSome_iff_exists.mp (observed id member)
  rw [answers, answers, found, advance.keep id result found]

theorem Walk.read_outcome (engine : Engine) {scope : Scope} (landed : scope.Landed) {tree : Value}
    (distinct : tree.Distinct) (answers : Answers) :
    (engine.evaluateStructure scope tree {}).1.read answers =
      (run engine scope tree {}).1.tree.read answers := by
  obtain ⟨visits, visited⟩ := visited_run engine scope distinct {}
  obtain ⟨_, _, underway⟩ := run_behind engine landed tree {}
  have expects := visited.expects distinct
  have tree_eq := visited.tree_eq
  rw [Engine.evaluateStructure]
  dsimp only
  generalize run engine scope tree {} = state at underway expects tree_eq
  unfold outcome
  split
  · next done =>
    -- Nothing is under way in a walk that is done, so no answer matters.
    obtain ⟨settled, value⟩ := expects.toValue_eq done
    rw [← tree_eq] at settled value
    have idle : state.1.tree.calls = [] := by
      rw [underway.calls_eq_nil_iff]
      apply List.eq_nil_iff_forall_not_mem.mpr
      intro d flies
      rw [Partial.isSettled_eq_all] at settled
      have unsettled := (underway d flies).1
      rw [List.all_eq_true.mp settled d flies] at unsettled
      cases unsettled
    show state.1.tree.toValue state.2.calls = _
    rw [value]
    apply Partial.read_congr
    intro id waited
    rw [idle] at waited
    cases waited
  · rfl

namespace Walk

/-- A walk under way that is the given one behind other calls. -/
structure Pursues (alone : Walk × Journal) (tree : Value) (results : Results) (first : CallId)
    (state : Walk × Journal) : Prop where
  expects : Expects tree results state
  tracks : Tracks first (first + alone.2.calls.length) state
  underway : alone.1.tree.Underway alone.2.calls
  tree_eq : tree.graft results.node = alone.1.tree.shift first

theorem exists_pursues_run (engine : Engine) {scope : Scope} (landed : scope.Landed) {tree : Value}
    (distinct : tree.Distinct) (base : Journal) :
    ∃ results, Pursues (run engine scope tree {}) tree results base.calls.length
      (run engine scope tree base) := by
  obtain ⟨visits, visited⟩ := visited_run engine scope distinct base
  obtain ⟨walked, _, underway⟩ := run_behind engine landed tree base
  have tracks := tracks_run engine scope tree base
  have length : (run engine scope tree base).2.calls.length =
      base.calls.length + (run engine scope tree {}).2.calls.length := by
    rw [walked]
    exact List.length_append
  rw [length] at tracks
  refine ⟨_, visited.expects distinct, tracks, underway, ?_⟩
  rw [← visited.tree_eq, walked]
  rfl

namespace Pursues

variable {alone state : Walk × Journal} {tree : Value} {results : Results} {first : CallId}

theorem pass (pursues : Pursues alone tree results first state) {journal : Journal}
    (advance : state.2.calls.Advance journal.calls) :
    Pursues alone tree results first (state.1, journal) where
  expects := pursues.expects.pass advance
  tracks := pursues.tracks.keep advance.keep
  underway := pursues.underway
  tree_eq := pursues.tree_eq

theorem poll (pursues : Pursues alone tree results first state) :
    Pursues alone tree results first (state.1.poll state.2) where
  expects := pursues.expects.poll
  tracks := pursues.tracks.take .poll
  underway := pursues.underway
  tree_eq := pursues.tree_eq

theorem toValue_eq (pursues : Pursues alone tree results first state)
    (done : state.1.isDone = true) :
    state.1.tree.toValue state.2.calls = alone.1.tree.read (Answers.ofList
      (state.2.calls.results (List.range' first alone.2.calls.length))) := by
  rw [(pursues.expects.toValue_eq done).2, pursues.tree_eq, Partial.read_shift]
  apply Partial.read_congr
  intro id waited
  rw [Partial.calls_eq_flatMap] at waited
  obtain ⟨d, flies, inside⟩ := List.mem_flatMap.mp waited
  exact (Answers.ofList_results _ first _ ((pursues.underway d flies).2 id inside)).symm

theorem isObserved (pursues : Pursues alone tree results first state)
    (done : state.1.isDone = true) {id : CallId}
    (own : id ∈ List.range' first alone.2.calls.length) :
    state.2.calls.isObserved id = true := by
  obtain ⟨from_first, before_last⟩ := List.mem_range'_1.mp own
  exact pursues.tracks.isObserved done from_first before_last

end Pursues

end Walk

namespace RenderSource

def walk (source : RenderSource) (dynamics : Environment) (tree : Value) : Walk × Journal :=
  Walk.run source.engine (source.scope dynamics) tree {}

/-- The number of calls that body and style start. -/
def callCount (source : RenderSource) (dynamics : Environment) : Nat :=
  (source.walk dynamics source.body).2.calls.length +
    (source.walk dynamics source.style).2.calls.length

/-- What body and style come to with some dynamic variables. The results of the calls that they
start are given in order, first those of the body. -/
def outcome (source : RenderSource) (dynamics : Environment) (results : List HostResult) :
    Rendered :=
  let first := (source.walk dynamics source.body).2.calls.length
  { kind := source.kind
    body := (source.engine.evaluateStructure (source.scope dynamics) source.body {}).1.read
      (Answers.ofList (results.take first))
    style := (source.engine.evaluateStructure (source.scope dynamics) source.style {}).1.read
      (Answers.ofList (results.drop first)) }

theorem Formed.landed {source : RenderSource} (formed : source.Formed) {dynamics : Environment}
    (arrived : dynamics.calls = []) : (source.scope dynamics).Landed where
  statics _ held := Option.some.inj held ▸ formed.statics
  dynamics _ held := Option.some.inj held ▸ arrived
  output := rfl

theorem length_walk {source : RenderSource} (formed : source.Formed) {dynamics : Environment}
    (arrived : dynamics.calls = []) (tree : Value) (journal : Journal) :
    (Walk.run source.engine (source.scope dynamics) tree journal).2.calls.length =
      journal.calls.length + (source.walk dynamics tree).2.calls.length := by
  rw [(Walk.run_behind source.engine (formed.landed arrived) tree journal).1]
  exact List.length_append

end RenderSource

namespace Rendering

/-- Body and style under way, with their calls numbered from the given one on. -/
inductive Pursues (source : RenderSource) (dynamics : Environment) (first : CallId) :
    Rendering × Journal → Prop where
  | intro {body style : Walk} {journal : Journal} {bodyResults styleResults : Results}
      (body_pursues : Walk.Pursues (source.walk dynamics source.body) source.body bodyResults first
        (body, journal))
      (style_pursues : Walk.Pursues (source.walk dynamics source.style) source.style styleResults
        (first + (source.walk dynamics source.body).2.calls.length) (style, journal)) :
      Pursues source dynamics first (.leaves source.kind body style, journal)

variable {source : RenderSource} {dynamics : Environment}

theorem pursues_evaluate (formed : source.Formed) (arrived : dynamics.calls = [])
    (journal : Journal) :
    Pursues source dynamics journal.calls.length (evaluate source dynamics journal) := by
  have landed := formed.landed arrived
  have grown := (Walk.entered_run source.engine (source.scope dynamics) source.style
    (Walk.run source.engine (source.scope dynamics) source.body journal).2).moves.advance
  obtain ⟨_, body⟩ := Walk.exists_pursues_run source.engine landed formed.body journal
  obtain ⟨_, style⟩ := Walk.exists_pursues_run source.engine landed formed.style
    (Walk.run source.engine (source.scope dynamics) source.body journal).2
  rw [RenderSource.length_walk formed arrived source.body journal] at style
  exact .intro (body.pass grown) style

theorem length_evaluate (formed : source.Formed) (arrived : dynamics.calls = [])
    (journal : Journal) :
    (evaluate source dynamics journal).2.calls.length =
      journal.calls.length + source.callCount dynamics := by
  show (Walk.run source.engine (source.scope dynamics) source.style
    (Walk.run source.engine (source.scope dynamics) source.body journal).2).2.calls.length = _
  rw [RenderSource.length_walk formed arrived, RenderSource.length_walk formed arrived,
    Nat.add_assoc]
  rfl

namespace Pursues

variable {first : CallId}

theorem pass {rendering : Rendering} {journal later : Journal}
    (pursues : Pursues source dynamics first (rendering, journal))
    (advance : journal.calls.Advance later.calls) :
    Pursues source dynamics first (rendering, later) := by
  cases pursues with
  | intro body style => exact .intro (body.pass advance) (style.pass advance)

theorem pollLeaves {kind : Section} {body style : Walk} {journal : Journal}
    (pursues : Pursues source dynamics first (.leaves kind body style, journal)) :
    Pursues source dynamics first (pollLeaves kind body style journal) := by
  cases pursues with
  | intro body_pursues style_pursues =>
    have polled := (style_pursues.pass (body.moves_poll .here).advance).poll
    exact .intro (body_pursues.poll.pass (style.moves_poll .here).advance) polled

/-- When nothing is under way any more, all calls of body and style are observed, and body and style
have come to the outcome that goes with their results. -/
theorem rendered {state : Rendering × Journal} {reached : Rendered}
    (pursues : Pursues source dynamics first state) (formed : source.Formed)
    (arrived : dynamics.calls = []) (done : state.1.rendered? state.2.calls = some reached) :
    let own := List.range' first (source.callCount dynamics)
    (∀ id ∈ own, state.2.calls.isObserved id = true) ∧
      reached = source.outcome dynamics (state.2.calls.results own) := by
  intro own
  have split : own = List.range' first (source.walk dynamics source.body).2.calls.length ++
      List.range' (first + (source.walk dynamics source.body).2.calls.length)
        (source.walk dynamics source.style).2.calls.length := List.range'_append_1.symm
  cases pursues with
  | @intro body style journal _ _ body_pursues style_pursues =>
    by_cases both : (body.isDone && style.isDone) = true
    · obtain ⟨body_done, style_done⟩ := Bool.and_eq_true_iff.mp both
      simp only [rendered?, both, if_true, Option.some.injEq] at done
      rw [split]
      constructor
      · intro id member
        rcases List.mem_append.mp member with inside | inside
        · exact body_pursues.isObserved body_done inside
        · exact style_pursues.isObserved style_done inside
      · have landed := formed.landed arrived
        have length : (journal.calls.results (List.range' first
            (source.walk dynamics source.body).2.calls.length)).length =
              (source.walk dynamics source.body).2.calls.length := by
          rw [Calls.results, List.length_map, List.length_range']
        dsimp only [RenderSource.outcome]
        rw [← done, Calls.results_append, List.take_left' length, List.drop_left' length,
          Walk.read_outcome source.engine landed formed.body,
          Walk.read_outcome source.engine landed formed.style, body_pursues.toValue_eq body_done,
          style_pursues.toValue_eq style_done]
        rfl
    · simp only [rendered?, both, Bool.false_eq_true, if_false, reduceCtorEq] at done

theorem isSome_rendered? {kind : Section} {body style : Walk} {journal : Journal}
    (pursues : Pursues source dynamics first (.leaves kind body style, journal))
    (finished : ∀ id < journal.calls.length, journal.calls.isFinished id = true) :
    let last := Rendering.pollLeaves kind body style journal
    (last.1.rendered? last.2.calls).isSome = true := by
  intro last
  cases pursues with
  | intro body_pursues style_pursues =>
    have body_done : (body.poll journal).1.isDone = true :=
      body_pursues.expects.isDone_poll fun result member id waited =>
        finished id (body_pursues.expects.placed result member id waited)
    have style_done : (style.poll (body.poll journal).2).1.isDone = true := by
      apply (style_pursues.expects.pass (body.moves_poll .here).advance).isDone_poll
      intro result member id waited
      show (body.poll journal).2.calls.isFinished id = true
      rw [body.isFinished_poll]
      exact finished id (style_pursues.expects.placed result member id waited)
    simp [last, Rendering.pollLeaves, rendered?, body_done, style_done]

end Pursues

end Rendering

end LiveConfig
