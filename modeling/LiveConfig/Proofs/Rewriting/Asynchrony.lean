import LiveConfig.Proofs.Rewriting.Settlement
import LiveConfig.Proofs.Rewriting.Verdict

set_option autoImplicit false

namespace LiveConfig

/-- The turns by which a walk settles when the gates bring the given results. -/
def Turn.Honest (opens : String → HostResult) : Turn → Prop
  | .release gate result => result = opens gate
  | .takeUp _ => True
  | .poll => True
  | .start _ _ => False
  | .rejectWaiting _ => False
  | .observe _ => False

section

variable (opens : String → HostResult)

namespace Call

theorem verdict_taken (call : Call) : call.taken.verdict opens = call.verdict opens := by
  obtain ⟨blame, progress⟩ := call
  cases progress <;> rfl

theorem verdict_release (call : Call) (gate : String) :
    (call.release gate (opens gate)).verdict opens = call.verdict opens := by
  obtain ⟨blame, progress⟩ := call
  cases progress with
  | waiting key =>
    unfold release
    by_cases same : key = gate
    · simp [verdict, same]
    · simp [same]
  | arrived result => rfl
  | observed result => rfl

/-- What is reported when a result is taken up was due, and nothing is due afterwards. -/
theorem report_append_due (call : Call) :
    call.report ++ call.taken.due opens = call.due opens := by
  obtain ⟨blame, progress⟩ := call
  cases progress with
  | waiting gate => cases blame <;> rfl
  | observed result => cases blame <;> rfl
  | arrived result => cases blame <;> cases result <;> rfl

theorem due_release (call : Call) (gate : String) :
    (call.release gate (opens gate)).due opens = call.due opens := by
  obtain ⟨blame, progress⟩ := call
  cases progress with
  | waiting key =>
    unfold release
    by_cases same : key = gate
    · cases blame <;> simp [due, same]
    · simp [same]
  | arrived result => rfl
  | observed result => rfl

end Call

/-- Taking up a call changes its own part of what is collected over all calls. -/
theorem Calls.perm_modify_taken (part : Call → List Event) (calls : Calls) (id : CallId) :
    ∃ rest, (calls.flatMap part).Perm (calls[id]?.toList.flatMap part ++ rest) ∧
      ((calls.modify id Call.taken).flatMap part).Perm
        (calls[id]?.toList.flatMap (fun call => part call.taken) ++ rest) := by
  induction calls generalizing id with
  | nil => exact ⟨[], by simp⟩
  | cons call rest ih =>
    cases id with
    | zero => exact ⟨rest.flatMap part, by simp⟩
    | succ id =>
      obtain ⟨others, before, after⟩ := ih id
      refine ⟨part call ++ others, ?_, ?_⟩
      · exact (before.append_left _).trans (List.perm_append_comm_assoc _ _ _)
      · exact (after.append_left _).trans (List.perm_append_comm_assoc _ _ _)

theorem Calls.perm_taken (calls : Calls) (id : CallId) :
    (calls[id]?.toList.flatMap Call.report ++
        (calls.modify id Call.taken).flatMap (Call.due opens)).Perm
      (calls.flatMap (Call.due opens)) := by
  obtain ⟨rest, before, after⟩ := Calls.perm_modify_taken (Call.due opens) calls id
  refine (after.append_left _).trans (.trans ?_ before.symm)
  rw [← List.append_assoc]
  cases calls[id]? with
  | none => exact .refl _
  | some call => simp [Call.report_append_due opens call]

/-- A journal in which some calls went further. Nothing is different about their results, and what
is reported and what is due about the calls from the given number on are the same together. -/
structure Journal.Continues (first : Nat) (before after : Journal) : Prop where
  verdicts : after.calls.map (Call.verdict opens) = before.calls.map (Call.verdict opens)
  events : (after.events ++ (after.calls.drop first).flatMap (Call.due opens)).Perm
    (before.events ++ (before.calls.drop first).flatMap (Call.due opens))

namespace Journal

variable {opens}

theorem Continues.refl (first : Nat) (journal : Journal) : Continues opens first journal journal :=
  ⟨rfl, .refl _⟩

theorem Continues.trans {first : Nat} {one two three : Journal}
    (before : Continues opens first one two) (after : Continues opens first two three) :
    Continues opens first one three :=
  ⟨after.verdicts.trans before.verdicts, after.events.trans before.events⟩

theorem continues_release (first : Nat) (journal : Journal) (gate : String) :
    Continues opens first journal (journal.release gate (opens gate)) where
  verdicts := by
    simp only [release, List.map_map, Function.comp_def, Call.verdict_release]
  events := by
    simp only [release, ← List.map_drop, List.flatMap_map, Call.due_release]
    exact .refl _

theorem continues_observe {first : Nat} (journal : Journal) {id : CallId} (own : first ≤ id) :
    Continues opens first journal (journal.observe id) where
  verdicts := by
    rw [observe_eq]
    refine List.ext_getElem? fun other => ?_
    rw [List.getElem?_map, List.getElem?_map, List.getElem?_modify]
    cases journal.calls[other]? with
    | none => rfl
    | some call => by_cases same : id = other <;> simp [same, Call.verdict_taken]
  events := by
    have here : journal.calls[id]? = (journal.calls.drop first)[id - first]? := by
      rw [List.getElem?_drop, Nat.add_sub_cancel' own]
    rw [observe_eq, List.drop_modify_of_ge _ _ _ _ own, here, List.append_assoc]
    exact (Calls.perm_taken opens _ _).append_left _

theorem continues_poll {first : Nat} (journal : Journal) {ids : List CallId}
    (own : ∀ id ∈ ids, first ≤ id) : Continues opens first journal (journal.poll ids) := by
  induction ids generalizing journal with
  | nil => exact .refl first journal
  | cons id rest ih =>
    obtain ⟨head, tail⟩ := List.forall_mem_cons.mp own
    exact (continues_observe journal head).trans (ih _ tail)

end Journal

end

namespace Walk

section

variable {tree : Value} {results : Results} {state : Walk × Journal} {first : Nat}
  {opens : String → HostResult}
  (own : ∀ result ∈ results, ∀ id ∈ result.2.calls, first ≤ id)

include own

theorem Settling.continues_takeUp (settling : Settling tree results state) (place : Nat) :
    Journal.Continues opens first state.2 (Walk.takeUp state place).2 := by
  unfold Walk.takeUp
  cases found : state.1.awaited[place]? with
  | none => exact .refl first state.2
  | some entry =>
    obtain ⟨path, d⟩ := entry
    have listed := Results.mem_awaited.mp (settling.awaited.subset (List.mem_of_getElem? found))
    have polled : Journal.Continues opens first state.2 (state.2.poll d.calls) :=
      Journal.continues_poll state.2 (own _ listed)
    dsimp only
    split
    · exact polled
    · exact polled

variable (distinct : tree.Distinct)
  (paths : results.map Prod.fst = (tree.strings []).map Prod.fst)

include distinct paths

theorem Settling.continues_take (settling : Settling tree results state) {turn : Turn}
    (honest : turn.Honest opens) :
    Journal.Continues opens first state.2 (turn.take state).2 := by
  cases turn with
  | start blame reply => cases honest
  | rejectWaiting message => cases honest
  | observe id => cases honest
  | release gate result =>
    obtain rfl : result = opens gate := honest
    exact Journal.continues_release first state.2 gate
  | takeUp place => exact settling.continues_takeUp own place
  | poll =>
    refine (poll_induction (P := fun next =>
      Settling tree results next ∧ Journal.Continues opens first state.2 next.2)
      (fun next place kept => ?_) ⟨settling, .refl first state.2⟩).2
    exact ⟨kept.1.takeUp distinct paths place,
      kept.2.trans (kept.1.continues_takeUp own place)⟩

theorem Settling.continues_takeAll (settling : Settling tree results state) {turns : List Turn}
    (honest : ∀ turn ∈ turns, turn.Honest opens) :
    Journal.Continues opens first state.2 (Turn.takeAll turns state).2 := by
  induction turns generalizing state with
  | nil => exact .refl first state.2
  | cons turn rest ih =>
    obtain ⟨head, tail⟩ := List.forall_mem_cons.mp honest
    exact (settling.continues_take own distinct paths head).trans
      (ih (settling.take distinct paths turn) tail)

end

end Walk

theorem Visits.calls_results (id : CallId) (visits : Visits) :
    (results id visits).flatMap (fun result => result.2.calls) =
      List.range' id (started visits).length := by
  induction visits generalizing id with
  | nil => rfl
  | cons visit rest ih =>
    have split : (started (visit :: rest)).length =
        visit.2.started.length + (started rest).length := List.length_append
    rw [results, List.flatMap_cons, Draft.calls_outcome, ih, List.range'_append_1, split]

namespace Outcome

theorem value?_eq_some_read {calls : Calls} {o : Outcome Value}
    (there : (o.value? calls).isSome = true) : o.value? calls = some (o.read calls.answers) :=
  value?_eq_some_iff.mpr ⟨o.isSome_value? calls ▸ there, rfl⟩

theorem isObserved_of_isSome {calls : Calls} {o : Outcome Value}
    (there : (o.value? calls).isSome = true) {id : CallId} (waited : id ∈ o.calls) :
    calls.isObserved id = true := by
  rw [isSome_value?] at there
  exact List.all_eq_true.mp there id waited

end Outcome

theorem Calls.of_isObserved {calls : Calls} {id : CallId} (observed : calls.isObserved id = true)
    (opens : String → HostResult) :
    ∃ call, calls[id]? = some call ∧ calls.answers id = call.verdict opens ∧
      call.due opens = [] := by
  obtain ⟨result, found⟩ := Option.isSome_iff_exists.mp observed
  have answer : calls.answers id = result := by
    rw [answers, found]
    rfl
  unfold result? at found
  split at found
  · next blame value here =>
    obtain rfl : value = result := Option.some.inj found
    exact ⟨_, here, answer, by cases blame <;> rfl⟩
  · cases found

namespace Walk

section

variable {engine : Engine} {scope : Scope} {tree : Value} {start : Journal} {visits : Visits}
  {walked : Walk × Journal} {opens : String → HostResult} {turns : List Turn}

theorem Visited.paths_results
    (visited : Visited engine scope tree start (tree.strings []) visits walked) :
    (Visits.results start.calls.length visits).map Prod.fst = (tree.strings []).map Prod.fst := by
  rw [Visits.map_fst_results, visited.paths]

theorem Visited.own {done : List (Path × String)}
    (visited : Visited engine scope tree start done visits walked) :
    ∀ result ∈ Visits.results start.calls.length visits, ∀ id ∈ result.2.calls,
      start.calls.length ≤ id ∧ id < walked.2.calls.length := by
  intro result member id waited
  have inside : id ∈ List.range' start.calls.length (Visits.started visits).length := by
    rw [← Visits.calls_results]
    exact List.mem_flatMap.mpr ⟨result, member, waited⟩
  have length : walked.2.calls.length = start.calls.length + (Visits.started visits).length := by
    rw [visited.journal_eq]
    exact List.length_append
  rw [length]
  exact List.mem_range'_1.mp inside

theorem Visited.continues
    (visited : Visited engine scope tree start (tree.strings []) visits walked)
    (distinct : tree.Distinct) (honest : ∀ turn ∈ turns, turn.Honest opens) :
    Journal.Continues opens start.calls.length walked.2 (Turn.takeAll turns walked).2 :=
  visited.settling.continues_takeAll
    (fun result member id waited => (visited.own result member id waited).1) distinct
    visited.paths_results honest

theorem Visited.arrived (visited : Visited engine scope tree start (tree.strings []) visits walked)
    (distinct : tree.Distinct) (done : (Turn.takeAll turns walked).1.isDone = true)
    {path : Path} {outcome : Outcome Value}
    (member : (path, outcome) ∈ Visits.results start.calls.length visits) :
    (Visits.results start.calls.length visits).result path = outcome ∧
      (outcome.value? (Turn.takeAll turns walked).2.calls).isSome = true := by
  have paths := visited.paths_results
  have found := Results.lookup_of_mem (nodup_results distinct paths) member
  have own : (Visits.results start.calls.length visits).result path = outcome := by
    rw [Results.result, found]
    rfl
  have place : path ∈ (tree.strings []).map Prod.fst := by
    rw [← paths]
    exact List.mem_map_of_mem member
  obtain ⟨leaf, inside, rfl⟩ := List.mem_map.mp place
  refine ⟨own, ?_⟩
  rw [← own]
  exact ((visited.settling.takeAll distinct paths turns).of_isDone distinct paths done).1 leaf inside

/-- A walk that is done has the verdict on each string in its place. -/
theorem Visited.value_of_isDone
    (visited : Visited engine scope tree start (tree.strings []) visits walked)
    (distinct : tree.Distinct) (honest : ∀ turn ∈ turns, turn.Honest opens)
    (done : (Turn.takeAll turns walked).1.isDone = true) {k : Nat} {path : Path} {draft : Draft}
    (drafted : visits[k]? = some (path, draft)) :
    ((Visits.results start.calls.length visits).result path).value?
      (Turn.takeAll turns walked).2.calls = some (draft.verdict opens).1 := by
  have result := Visits.getElem?_results start.calls.length visits k
  rw [drafted, Option.map_some] at result
  obtain ⟨own, arrived⟩ := visited.arrived distinct done (List.mem_of_getElem? result)
  rw [own, Outcome.value?_eq_some_read arrived]
  refine congrArg some (draft.read_outcome opens _ fun j call found => ?_)
  have inside : j < draft.started.length := (List.getElem?_eq_some_iff.mp found).1
  have waited : start.calls.length + (Visits.started (visits.take k)).length + j ∈
      (draft.outcome (start.calls.length + (Visits.started (visits.take k)).length)).calls := by
    rw [draft.calls_outcome, List.mem_range'_1]
    exact ⟨Nat.le_add_right _ _, Nat.add_lt_add_left inside _⟩
  obtain ⟨last, here, answer, -⟩ :=
    Calls.of_isObserved (Outcome.isObserved_of_isSome arrived waited) opens
  have verdicts := congrArg (fun list => list[start.calls.length +
    (Visits.started (visits.take k)).length + j]?) (visited.continues distinct honest).verdicts
  simp only [List.getElem?_map, here, visited.holds drafted j inside, found, Option.map_some,
    Option.some.injEq] at verdicts
  rw [answer, verdicts]

theorem Visited.nothing_due
    (visited : Visited engine scope tree start (tree.strings []) visits walked)
    (distinct : tree.Distinct) (honest : ∀ turn ∈ turns, turn.Honest opens)
    (done : (Turn.takeAll turns walked).1.isDone = true) :
    ((Turn.takeAll turns walked).2.calls.drop start.calls.length).flatMap (Call.due opens) = [] := by
  refine List.flatMap_eq_nil_iff.mpr fun call member => ?_
  obtain ⟨j, found⟩ := List.getElem?_of_mem member
  rw [List.getElem?_drop] at found
  -- Honest turns start no calls, so each of these belongs to a string of the walk.
  have length := congrArg List.length (visited.continues distinct honest).verdicts
  rw [List.length_map, List.length_map, visited.journal_eq] at length
  have inside : j < (Visits.started visits).length := by
    have bound := (List.getElem?_eq_some_iff.mp found).1
    rw [length.trans List.length_append] at bound
    exact Nat.lt_of_add_lt_add_left bound
  have number : start.calls.length + j ∈
      List.range' start.calls.length (Visits.started visits).length :=
    List.mem_range'_1.mpr ⟨Nat.le_add_right _ _, Nat.add_lt_add_left inside _⟩
  rw [← Visits.calls_results] at number
  obtain ⟨result, listed, waited⟩ := List.mem_flatMap.mp number
  obtain ⟨last, here, -, due⟩ := Calls.of_isObserved
    (Outcome.isObserved_of_isSome (visited.arrived distinct done listed).2 waited) opens
  rw [found] at here
  rw [Option.some.inj here, due]

/-- A walk that is done has reported all that was to be reported about its strings. -/
theorem Visited.events_of_isDone
    (visited : Visited engine scope tree start (tree.strings []) visits walked)
    (distinct : tree.Distinct) (honest : ∀ turn ∈ turns, turn.Honest opens)
    (done : (Turn.takeAll turns walked).1.isDone = true) :
    (Turn.takeAll turns walked).2.events.Perm
      (start.events ++ visits.flatMap fun visit => (visit.2.verdict opens).2) := by
  have events := (visited.continues distinct honest).events
  have begun : walked.2.calls.drop start.calls.length = Visits.started visits := by
    rw [visited.journal_eq]
    exact List.drop_left
  have told : walked.2.events = start.events ++ Visits.reported visits := by
    rw [visited.journal_eq]
    rfl
  rw [visited.nothing_due distinct honest done, List.append_nil, begun, told,
    List.append_assoc] at events
  refine events.trans (.append_left _ ?_)
  rw [Visits.reported, Visits.started, List.flatMap_assoc]
  refine (List.flatMap_append_perm _ _ _).trans (List.Perm.flatMap_left _ fun visit _ => ?_)
  exact visit.2.reported_append_due_perm opens

/-- Where no expression reads `output`, a walk settles to the verdicts on its strings. -/
theorem settles_to_verdicts (distinct : tree.Distinct)
    (blind : ∀ e, tree.Embeds e → e.Blind scope) (honest : ∀ turn ∈ turns, turn.Honest opens)
    (done : (Turn.takeAll turns (run engine scope tree start)).1.isDone = true) :
    let state := Turn.takeAll turns (run engine scope tree start)
    let verdict := fun text =>
      (engine.draft { scope with calls := start.calls } .structural text).verdict opens
    state.1.tree = tree.graft (fun _ text => .ready (verdict text).1) ∧
      state.2.events.Perm
        (start.events ++ (tree.strings []).flatMap fun leaf => (verdict leaf.2).2) := by
  intro state verdict
  obtain ⟨visits, visited⟩ := visited_run engine scope distinct start
  have paths := visited.paths_results
  have visits_eq : visits = (tree.strings []).map fun leaf =>
      (leaf.1, engine.draft { scope with calls := start.calls } .structural leaf.2) := by
    refine List.ext_getElem? fun k => ?_
    rw [List.getElem?_map]
    cases found : (tree.strings [])[k]? with
    | none =>
      have length : visits.length = (tree.strings []).length := by
        simpa using congrArg List.length visited.paths
      rw [List.getElem?_eq_none_iff] at found
      rw [List.getElem?_eq_none (by omega)]
      rfl
    | some leaf => exact visited.drafts_of_blind blind found
  constructor
  · rw [((visited.settling.takeAll distinct paths turns).of_isDone distinct paths done).2]
    refine tree.graft_congr fun leaf member => ?_
    obtain ⟨k, found⟩ := List.getElem?_of_mem member
    rw [visited.value_of_isDone distinct honest done (visited.drafts_of_blind blind found)]
    rfl
  · have events := visited.events_of_isDone distinct honest done
    rw [visits_eq, List.flatMap_map] at events
    exact events

end

theorem isFinished_foldl_release (opens : String → HostResult) (gates : List String) (call : Call)
    (listed : ∀ gate, call.progress = .waiting gate → gate ∈ gates) :
    (gates.foldl (fun call gate => call.release gate (opens gate)) call).isFinished = true := by
  induction gates generalizing call with
  | nil =>
    obtain ⟨blame, progress⟩ := call
    cases progress with
    | waiting gate => exact absurd (listed gate rfl) List.not_mem_nil
    | arrived result => rfl
    | observed result => rfl
  | cons gate rest ih =>
    refine ih _ fun key waiting => ?_
    obtain ⟨blame, progress⟩ := call
    cases progress with
    | arrived result => cases waiting
    | observed result => cases waiting
    | waiting other =>
      by_cases same : other = gate
      · simp [Call.release, same] at waiting
      · simp only [Call.release, same, if_false] at waiting
        exact ((List.mem_cons.mp (listed key waiting)).resolve_left fun here =>
          same ((Progress.waiting.inj waiting).trans here))

/-- The gates behind which calls wait. -/
def gatesOf (calls : Calls) : List String :=
  calls.filterMap fun call =>
    match call.progress with
    | .waiting gate => some gate
    | _ => none

theorem isFinished_openGates (opens : String → HostResult) {calls : Calls} {id : Nat}
    (inside : id < calls.length) :
    Calls.isFinished (calls.map fun call =>
      (gatesOf calls).foldl (fun call gate => call.release gate (opens gate)) call) id = true := by
  rw [Calls.isFinished, List.getElem?_map, List.getElem?_eq_getElem inside, Option.map_some,
    Option.any_some]
  refine isFinished_foldl_release opens _ _ fun gate waiting => ?_
  exact List.mem_filterMap.mpr ⟨_, List.getElem_mem inside, by rw [waiting]⟩

theorem takeAll_release (opens : String → HostResult) (gates : List String)
    (state : Walk × Journal) :
    (Turn.takeAll (gates.map fun gate => .release gate (opens gate)) state).2.calls =
      state.2.calls.map fun call =>
        gates.foldl (fun call gate => call.release gate (opens gate)) call := by
  induction gates generalizing state with
  | nil => simp [Turn.takeAll]
  | cons gate rest ih =>
    refine (ih (Turn.take state (.release gate (opens gate)))).trans ?_
    simp [Turn.take, Journal.release, Function.comp_def]

theorem Settling.exists_isDone {tree : Value} {results : Results} {state : Walk × Journal}
    (settling : Settling tree results state) (distinct : tree.Distinct)
    (paths : results.map Prod.fst = (tree.strings []).map Prod.fst)
    (started : ∀ leaf ∈ tree.strings [], ∀ id ∈ (results.result leaf.1).calls,
      id < state.2.calls.length) (opens : String → HostResult) :
    ∃ more : List Turn, (∀ turn ∈ more, turn.Honest opens) ∧
      (Turn.takeAll more state).1.isDone = true := by
  let releases : List Turn := (gatesOf state.2.calls).map fun gate => .release gate (opens gate)
  have calls := takeAll_release opens (gatesOf state.2.calls) state
  refine ⟨releases ++ [.poll], ?_, ?_⟩
  · intro turn member
    rcases List.mem_append.mp member with released | polled
    · obtain ⟨gate, _, rfl⟩ := List.mem_map.mp released
      exact rfl
    · obtain rfl := List.mem_singleton.mp polled
      trivial
  · have ending : Turn.takeAll (releases ++ [.poll]) state =
        (Turn.takeAll releases state).1.poll (Turn.takeAll releases state).2 := by
      simp [Turn.takeAll, Turn.take]
    rw [ending, (settling.takeAll distinct paths releases).isDone_poll_iff distinct paths]
    intro leaf member id waited
    rw [calls]
    exact isFinished_openGates opens (started leaf member id waited)

/-- At any point of honest settling a walk can still be settled. -/
theorem exists_isDone_of_honest (engine : Engine) (scope : Scope) {tree : Value} (start : Journal)
    (distinct : tree.Distinct) {opens : String → HostResult} {turns : List Turn}
    (honest : ∀ turn ∈ turns, turn.Honest opens) :
    ∃ more : List Turn, (∀ turn ∈ more, turn.Honest opens) ∧
      (Turn.takeAll (turns ++ more) (run engine scope tree start)).1.isDone = true := by
  obtain ⟨visits, visited⟩ := visited_run engine scope distinct start
  have paths := visited.paths_results
  have length := congrArg List.length (visited.continues distinct honest).verdicts
  rw [List.length_map, List.length_map] at length
  obtain ⟨more, fair, done⟩ := (visited.settling.takeAll distinct paths turns).exists_isDone
    distinct paths (fun leaf member id waited => by
      rw [length]
      have found := lookup_result distinct paths member
      exact (visited.own _ (Results.mem_of_lookup found) id waited).2) opens
  refine ⟨more, fair, ?_⟩
  rw [Turn.takeAll_append]
  exact done

/-- Asynchrony is transparent. A function that answers later behind gates, and is called in tail
position only, gives the same tree and the same reports in another order as the function that
answers at once, however the walks are settled. And they can always be settled. -/
theorem run_async_agrees_with_sync (engine : Engine) (scope : Scope) (tree : Value)
    (journal : Journal) (name : String) (f : List Value → HostResult) (g : List Value → Reply)
    (opens : String → HostResult) (distinct : tree.Distinct)
    (fixed : ∀ args, (g args).result opens = f args)
    (tail : ∀ e, tree.Embeds e → e.TailOnly name) (blind : ∀ e, tree.Embeds e → e.Blind scope) :
    let later := run (engine.withFunction name (.async g)) scope tree journal
    let now := run (engine.withFunction name (.sync f)) scope tree journal
    (∀ turns turns' : List Turn, (∀ turn ∈ turns, turn.Honest opens) →
      (∀ turn ∈ turns', turn.Honest opens) →
      let state := Turn.takeAll turns later
      let state' := Turn.takeAll turns' now
      state.1.isDone = true → state'.1.isDone = true →
        state.1.tree.toValue state.2.calls = state'.1.tree.toValue state'.2.calls ∧
          state.2.events.Perm state'.2.events) ∧
    ∀ walked ∈ [later, now], ∀ turns : List Turn, (∀ turn ∈ turns, turn.Honest opens) →
      ∃ more : List Turn, (∀ turn ∈ more, turn.Honest opens) ∧
        (Turn.takeAll (turns ++ more) walked).1.isDone = true := by
  intro later now
  constructor
  · intro turns turns' honest honest' state state' done done'
    -- Both walks settle to verdicts, which do not tell when the function answers.
    obtain ⟨tree_eq, events⟩ := settles_to_verdicts distinct blind honest done
    obtain ⟨tree_eq', events'⟩ := settles_to_verdicts distinct blind honest' done'
    have same (leaf : Path × String) (member : leaf ∈ tree.strings []) :=
      engine.verdict_draft_eq fixed { scope with calls := journal.calls } name
        fun e embedded => tail e ⟨leaf, member, embedded⟩
    constructor
    · rw [tree_eq, tree_eq']
      refine tree.toValue_graft_congr fun leaf member => ?_
      exact congrArg Prod.fst (same leaf member)
    · refine events.trans ?_
      have reports : (tree.strings []).map (fun leaf =>
            (((engine.withFunction name (.async g)).draft { scope with calls := journal.calls }
              .structural leaf.2).verdict opens).2) =
          (tree.strings []).map fun leaf =>
            (((engine.withFunction name (.sync f)).draft { scope with calls := journal.calls }
              .structural leaf.2).verdict opens).2 :=
        List.map_congr_left fun leaf member => congrArg Prod.snd (same leaf member)
      rw [List.flatMap_def, reports, ← List.flatMap_def]
      exact events'.symm
  · intro walked either turns honest
    rcases List.mem_cons.mp either with rfl | either
    · exact exists_isDone_of_honest _ scope journal distinct honest
    · obtain rfl := List.mem_singleton.mp either
      exact exists_isDone_of_honest _ scope journal distinct honest

/-- A call of `later` that is rejected behind its gate leaves the same tree and the same report as
one that fails at once. -/
theorem run_rejected_later :
    let tree := Value.object [("lamp", .text "<$ later('lamp') $>")]
    let opens : String → HostResult := fun _ => .error "offline"
    let later := run (Engine.withFunction {} "later" (.async fun _ => .waiting "gate"))
      { host := {} } tree {}
    tree.Distinct ∧ (∀ e, tree.Embeds e → e.TailOnly "later" ∧ e.Blind { host := {} }) ∧
      later.1.isDone = false ∧
      ∃ turns : List Turn, (∀ turn ∈ turns, turn.Honest opens) ∧
        let state := Turn.takeAll turns later
        state.1.isDone = true ∧ state.1.tree.toValue state.2.calls = .object [("lamp", .null)] ∧
          state.2.events = [.expressionFailed "later('lamp')" (.host "offline")] := by
  intro tree opens later
  have embedded (e : Expr) (inside : tree.Embeds e) : e = .call "later" [.text "lamp"] := by
    obtain ⟨leaf, member, source, listed, parsed⟩ := inside
    obtain rfl : leaf = ([.key "lamp"], "<$ later('lamp') $>") := List.mem_singleton.mp member
    simp only [classify_later, Template.sources, List.mem_singleton] at listed
    rw [listed, parse_later] at parsed
    exact (Except.ok.inj parsed).symm
  have tail (e : Expr) (inside : tree.Embeds e) : e.TailOnly "later" := by
    rw [embedded e inside]
    refine .call fun a member function arguments called => ?_
    obtain rfl := List.mem_singleton.mp member
    cases called
  have blind (e : Expr) (inside : tree.Embeds e) : e.Blind { host := {} } := by
    rw [embedded e inside]
    intro _ mentioned
    cases mentioned with
    | argument member mentioned =>
      obtain rfl := List.mem_singleton.mp member
      cases mentioned
  have now_eq : run (Engine.withFunction {} "later" (.sync fun _ => .error "offline"))
      { host := {} } tree {} = ({ tree := .object [("lamp", .ready .null)] },
        { events := [.expressionFailed "later('lamp')" (.host "offline")] }) := by
    have found : (Engine.withFunction {} "later" (.sync fun _ => .error "offline")).registry.find?
        "later" = some (.sync fun _ => .error "offline") :=
      Registry.find?_register_self ({} : Registry) "later" "later" (.sync fun _ => .error "offline")
        rfl
    have failed (scope : Scope) : Expr.evalTail
        (Engine.withFunction {} "later" (.sync fun _ => .error "offline")).registry scope
        (.call "later" [.text "lamp"]) = .error (.host "offline") := by
      simp [Expr.evalTail, Expr.evalAll, Expr.eval, Registry.isAsync_eq, Registry.call_eq, found,
        Except.mapError]
    simp only [tree, run, Value.strings, Value.fieldStrings, List.foldl, visit, List.append_nil,
      Engine.evaluateTemplate, classify_later, Engine.evaluate, Engine.evaluateOr,
      Engine.tryEvaluate, parse_later, Except.mapError, ok_bind, failed]
    rfl
  have waiting : later.1.isDone = false := by
    rw [show later = _ from run_later { host := {} }]
    rfl
  obtain ⟨agree, finish⟩ := run_async_agrees_with_sync {} { host := {} } tree {} "later"
    (fun _ => .error "offline") (fun _ => .waiting "gate") opens distinct_later (fun _ => rfl) tail
    blind
  rw [now_eq] at agree
  obtain ⟨turns, honest, done⟩ := finish later List.mem_cons_self [] (List.forall_mem_nil _)
  obtain ⟨value, events⟩ := agree turns [] honest (List.forall_mem_nil _) done rfl
  exact ⟨distinct_later, fun e inside => ⟨tail e inside, blind e inside⟩, waiting, turns, honest,
    done, value, List.perm_singleton.mp events⟩

end Walk

end LiveConfig
