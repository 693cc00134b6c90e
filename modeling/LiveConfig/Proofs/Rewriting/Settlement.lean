import LiveConfig.Proofs.Evaluation.TailCalls
import LiveConfig.Proofs.Rewriting.DocumentOrder
import LiveConfig.Proofs.Rewriting.Turns

set_option autoImplicit false

namespace LiveConfig

theorem mem_map_fst_eraseIdx {α β : Type} {entries : List (α × β)}
    (nodup : (entries.map Prod.fst).Nodup) {k : Nat} {entry : α × β}
    (found : entries[k]? = some entry) {name : α} :
    name ∈ (entries.eraseIdx k).map Prod.fst ↔
      name ∈ entries.map Prod.fst ∧ name ≠ entry.1 := by
  have inside : k < (entries.map Prod.fst).length := by
    rw [List.length_map]
    exact (List.getElem?_eq_some_iff.mp found).1
  constructor
  · intro member
    obtain ⟨other, left, rfl⟩ := List.mem_map.mp member
    obtain ⟨i, differ, there⟩ := List.mem_eraseIdx_iff_getElem?.mp left
    refine ⟨List.mem_map_of_mem (List.mem_of_getElem? there), fun same => differ ?_⟩
    refine ((List.getElem?_inj inside nodup).mp ?_).symm
    rw [List.getElem?_map, List.getElem?_map, found, there, Option.map_some, Option.map_some, same]
  · rintro ⟨member, differ⟩
    obtain ⟨other, listed, rfl⟩ := List.mem_map.mp member
    obtain ⟨i, there⟩ := List.getElem?_of_mem listed
    refine List.mem_map_of_mem (List.mem_eraseIdx_iff_getElem?.mpr ⟨i, ?_, there⟩)
    rintro rfl
    rw [found] at there
    exact differ (congrArg Prod.fst (Option.some.inj there)).symm

namespace Results

/-- What stands in the place of a string while its walk settles: a result in flight stays pending
as long as the walk awaits its place. -/
def current (results : Results) (calls : Calls) (awaited : List Path) (path : Path)
    (text : String) : Partial :=
  match results.lookup path with
  | some (.pending d) => if path ∈ awaited then .pending d else .ready (d.read calls.answers)
  | some (.ready v) => .ready v
  | none => .ready (.text text)

/-- What the string at a path came to. -/
def result (results : Results) (path : Path) : Outcome Value :=
  (results.lookup path).getD (.ready .null)

theorem lookup_of_mem {results : Results} (nodup : (results.map Prod.fst).Nodup) {path : Path}
    {outcome : Outcome Value} (member : (path, outcome) ∈ results) :
    results.lookup path = some outcome := by
  obtain ⟨k, found⟩ := List.getElem?_of_mem member
  exact lookup_of_getElem? nodup found

theorem mem_awaited {results : Results} {path : Path} {d : Deferred Value} :
    (path, d) ∈ results.awaited ↔ (path, .pending d) ∈ results := by
  unfold awaited
  rw [List.mem_filterMap]
  constructor
  · rintro ⟨⟨other, outcome⟩, member, same⟩
    cases outcome with
    | ready v => cases same
    | pending e =>
      cases same
      exact member
  · intro member
    exact ⟨_, member, rfl⟩

theorem awaited_paths_sublist (results : Results) :
    (results.awaited.map Prod.fst).Sublist (results.map Prod.fst) := by
  induction results with
  | nil => exact .slnil
  | cons result rest ih =>
    obtain ⟨path, outcome⟩ := result
    cases outcome with
    | ready v => exact ih.cons path
    | pending d => exact ih.cons_cons path

theorem length_awaited (results : Results) :
    results.awaited.length = results.countP fun result => result.2.isPending := by
  induction results with
  | nil => rfl
  | cons result rest ih =>
    obtain ⟨path, outcome⟩ := result
    cases outcome with
    | ready v => exact ih
    | pending d =>
      rw [List.countP_cons_of_pos rfl, ← ih]
      rfl

end Results

namespace Walk

/-- A walk that is settling: the places that are still awaited, and what stands in the tree. -/
structure Settling (tree : Value) (results : Results) (state : Walk × Journal) : Prop where
  awaited : state.1.awaited.Sublist results.awaited
  settled : ∀ path d, results.lookup path = some (.pending d) →
    path ∉ state.1.awaited.map Prod.fst → d.isSettled state.2.calls = true
  tree_eq : state.1.tree =
    tree.graft (results.current state.2.calls (state.1.awaited.map Prod.fst))

section

variable {tree : Value} {results : Results} {state : Walk × Journal}

theorem Settling.keep (settling : Settling tree results state) {journal : Journal}
    (keep : state.2.calls.Keep journal.calls) : Settling tree results (state.1, journal) where
  awaited := settling.awaited
  settled path d found written := keep.isSettled (settling.settled path d found written)
  tree_eq := by
    rw [settling.tree_eq]
    refine tree.graft_congr fun leaf _ => ?_
    unfold Results.current
    split
    · next d found =>
      by_cases waits : leaf.1 ∈ state.1.awaited.map Prod.fst
      · rw [if_pos waits, if_pos waits]
      · rw [if_neg waits, if_neg waits, keep.read_eq (settling.settled leaf.1 d found waits)]
    · rfl
    · rfl

/-- Right after a walk every place with a result in flight is awaited. -/
theorem Visited.settling {engine : Engine} {scope : Scope} {start : Journal}
    {done : List (Path × String)} {visits : Visits}
    (visited : Visited engine scope tree start done visits state) :
    Settling tree (Visits.results start.calls.length visits) state := by
  have listed {path : Path} {d : Deferred Value}
      (found : (Visits.results start.calls.length visits).lookup path = some (.pending d)) :
      path ∈ state.1.awaited.map Prod.fst := by
    rw [visited.awaited_eq]
    exact List.mem_map_of_mem (Results.mem_awaited.mpr (Results.mem_of_lookup found))
  refine ⟨visited.awaited_eq ▸ .refl _, fun path d found waits => absurd (listed found) waits, ?_⟩
  rw [visited.tree_eq]
  refine tree.graft_congr fun leaf _ => ?_
  unfold Results.node Results.current
  cases found : (Visits.results start.calls.length visits).lookup leaf.1 with
  | none => rfl
  | some outcome =>
    cases outcome with
    | ready v => rfl
    | pending d =>
      simp only [listed found, if_true]
      rfl

variable (distinct : tree.Distinct)
  (paths : results.map Prod.fst = (tree.strings []).map Prod.fst)

include distinct paths

theorem nodup_results : (results.map Prod.fst).Nodup := by
  rw [paths]
  exact Value.nodup_paths distinct

theorem Settling.nodup_awaited (settling : Settling tree results state) :
    (state.1.awaited.map Prod.fst).Nodup :=
  (nodup_results distinct paths).sublist
    ((settling.awaited.map Prod.fst).trans results.awaited_paths_sublist)

theorem Settling.of_mem_awaited (settling : Settling tree results state) {path : Path}
    {d : Deferred Value} (member : (path, d) ∈ state.1.awaited) :
    results.lookup path = some (.pending d) ∧ ∃ text, (path, text) ∈ tree.strings [] := by
  have listed := Results.mem_awaited.mp (settling.awaited.subset member)
  refine ⟨Results.lookup_of_mem (nodup_results distinct paths) listed, ?_⟩
  have place : path ∈ (tree.strings []).map Prod.fst := by
    rw [← paths]
    exact List.mem_map_of_mem listed
  obtain ⟨⟨_, text⟩, inside, rfl⟩ := List.mem_map.mp place
  exact ⟨text, inside⟩

theorem Settling.set?_eq (settling : Settling tree results state) {path : Path}
    {d : Deferred Value} (member : (path, d) ∈ state.1.awaited) (node : Partial) :
    Partial.set? path node state.1.tree = some (tree.graft (Value.replaced
      (results.current state.2.calls (state.1.awaited.map Prod.fst)) path node)) := by
  obtain ⟨_, text, inside⟩ := settling.of_mem_awaited distinct paths member
  rw [settling.tree_eq]
  exact Value.set?_graft distinct inside _ node

/-- Taking up one place. -/
theorem Settling.takeUp (settling : Settling tree results state) (place : Nat) :
    Settling tree results (Walk.takeUp state place) := by
  unfold Walk.takeUp
  cases found : state.1.awaited[place]? with
  | none => exact settling
  | some entry =>
    obtain ⟨path, d⟩ := entry
    have later := settling.keep (state.2.keep_poll d.calls)
    cases arrived : d.value? (state.2.poll d.calls).calls with
    | none =>
      simp only [arrived]
      exact later
    | some value =>
      simp only [arrived]
      have member : (path, d) ∈ state.1.awaited := List.mem_of_getElem? found
      have nodup := settling.nodup_awaited distinct paths
      have flying := (settling.of_mem_awaited distinct paths member).1
      obtain ⟨settled, read⟩ := Deferred.value?_eq_some_iff.mp arrived
      have erased (other : Path) : other ∈ (state.1.awaited.eraseIdx place).map Prod.fst ↔
          other ∈ state.1.awaited.map Prod.fst ∧ other ≠ path :=
        mem_map_fst_eraseIdx nodup found
      refine ⟨(List.eraseIdx_sublist _ _).trans settling.awaited, ?_, ?_⟩
      · intro other e lookup written
        by_cases same : other = path
        · subst same
          rw [flying] at lookup
          cases lookup
          exact settled
        · exact later.settled other e lookup fun waits => written ((erased other).mpr ⟨waits, same⟩)
      -- The place is awaited, so it is still in the tree and the write finds it.
      · have written := later.set?_eq distinct paths member (.ready value)
        dsimp only at written ⊢
        rw [Partial.set, written, Option.getD_some]
        refine tree.graft_congr fun leaf _ => ?_
        unfold Value.replaced Results.current
        by_cases same : leaf.1 = path
        · have gone : leaf.1 ∉ (state.1.awaited.eraseIdx place).map Prod.fst := fun waits =>
            ((erased leaf.1).mp waits).2 same
          simp only [same] at gone
          simp only [same, if_true, flying, if_neg gone]
          exact congrArg Partial.ready read.symm
        · have stays : leaf.1 ∈ (state.1.awaited.eraseIdx place).map Prod.fst ↔
              leaf.1 ∈ state.1.awaited.map Prod.fst :=
            (erased leaf.1).trans (and_iff_left same)
          simp only [same, if_false, stays]

theorem Settling.take (settling : Settling tree results state) (turn : Turn) :
    Settling tree results (turn.take state) := by
  cases turn with
  | start blame reply => exact settling.keep (state.2.keep_start blame reply)
  | release gate result => exact settling.keep (state.2.keep_release gate result)
  | rejectWaiting message => exact settling.keep (state.2.keep_rejectWaiting message)
  | observe id => exact settling.keep (state.2.keep_observe id)
  | takeUp place => exact settling.takeUp distinct paths place
  | poll =>
    exact poll_induction (P := Settling tree results)
      (fun _ place later => later.takeUp distinct paths place) settling

theorem Settling.takeAll (settling : Settling tree results state) (turns : List Turn) :
    Settling tree results (Turn.takeAll turns state) := by
  induction turns generalizing state with
  | nil => exact settling
  | cons turn rest ih => exact ih (settling.take distinct paths turn)

theorem lookup_result {leaf : Path × String} (member : leaf ∈ tree.strings []) :
    results.lookup leaf.1 = some (results.result leaf.1) := by
  have listed : leaf.1 ∈ results.map Prod.fst := by
    rw [paths]
    exact List.mem_map_of_mem member
  obtain ⟨⟨path, outcome⟩, inside, same⟩ := List.mem_map.mp listed
  obtain rfl : path = leaf.1 := same
  rw [Results.result, Results.lookup_of_mem (nodup_results distinct paths) inside]
  rfl

theorem Settling.toValue_current (settling : Settling tree results state) {leaf : Path × String}
    (member : leaf ∈ tree.strings []) :
    (results.current state.2.calls (state.1.awaited.map Prod.fst) leaf.1 leaf.2).toValue
        state.2.calls = ((results.result leaf.1).value? state.2.calls).getD .null := by
  have found := lookup_result distinct paths member
  unfold Results.current
  rw [found]
  cases outcome : results.result leaf.1 with
  | ready v => rfl
  | pending d =>
    rw [outcome] at found
    by_cases waits : leaf.1 ∈ state.1.awaited.map Prod.fst
    · simp only [waits, if_true]
      rfl
    · have settled := settling.settled leaf.1 d found waits
      simp only [waits, if_false, Outcome.value?, Deferred.value?, if_pos settled]
      rfl

theorem Settling.snapshot (settling : Settling tree results state) :
    state.1.tree.toValue state.2.calls = (tree.graft fun path _ =>
      .ready (((results.result path).value? state.2.calls).getD .null)).toValue state.2.calls := by
  rw [settling.tree_eq]
  exact tree.toValue_graft_congr fun leaf member => settling.toValue_current distinct paths member

/-- The calls of all strings are finished exactly when a poll leaves nothing to wait for. -/
theorem Settling.isDone_poll_iff (settling : Settling tree results state) :
    (state.1.poll state.2).1.isDone = true ↔ ∀ leaf ∈ tree.strings [],
      ∀ id ∈ (results.result leaf.1).calls, state.2.calls.isFinished id = true := by
  rw [isDone, List.isEmpty_iff, awaited_poll, List.filter_eq_nil_iff]
  constructor
  · intro finished leaf member id call
    have found := lookup_result distinct paths member
    cases outcome : results.result leaf.1 with
    | ready v =>
      rw [outcome] at call
      cases call
    | pending d =>
      rw [outcome] at found call
      by_cases waits : leaf.1 ∈ state.1.awaited.map Prod.fst
      · obtain ⟨⟨path, e⟩, listed, same⟩ := List.mem_map.mp waits
        have flying := (settling.of_mem_awaited distinct paths listed).1
        obtain rfl : path = leaf.1 := same
        rw [found] at flying
        obtain rfl : d = e := Outcome.pending.inj (Option.some.inj flying)
        have all : d.calls.all state.2.calls.isFinished = true := by
          simpa using finished _ listed
        exact List.all_eq_true.mp all id call
      · have settled := settling.settled leaf.1 d found waits
        exact Calls.isFinished_of_isObserved (List.all_eq_true.mp settled id call)
  · rintro finished ⟨path, d⟩ listed
    obtain ⟨flying, text, inside⟩ := settling.of_mem_awaited distinct paths listed
    have outcome : results.result path = .pending d := by
      rw [Results.result, flying]
      rfl
    have all : d.calls.all state.2.calls.isFinished = true := by
      refine List.all_eq_true.mpr fun id call => ?_
      refine finished _ inside id ?_
      rw [outcome]
      exact call
    simp [all]

/-- A walk that is done has the result of every string in its place. -/
theorem Settling.of_isDone (settling : Settling tree results state)
    (done : state.1.isDone = true) :
    (∀ leaf ∈ tree.strings [], ((results.result leaf.1).value? state.2.calls).isSome = true) ∧
      state.1.tree = tree.graft fun path _ =>
        .ready (((results.result path).value? state.2.calls).getD .null) := by
  have none_waits : state.1.awaited.map Prod.fst = [] := by
    rw [List.isEmpty_iff.mp done]
    rfl
  have settled (leaf : Path × String) (member : leaf ∈ tree.strings []) {d : Deferred Value}
      (outcome : results.result leaf.1 = .pending d) : d.isSettled state.2.calls = true := by
    have found := lookup_result distinct paths member
    rw [outcome] at found
    refine settling.settled leaf.1 d found ?_
    rw [none_waits]
    exact List.not_mem_nil
  constructor
  · intro leaf member
    cases outcome : results.result leaf.1 with
    | ready v => rfl
    | pending d =>
      rw [Outcome.value?, Deferred.value?, if_pos (settled leaf member outcome)]
      rfl
  · rw [settling.tree_eq, none_waits]
    refine tree.graft_congr fun leaf member => ?_
    have found := lookup_result distinct paths member
    unfold Results.current
    rw [found]
    cases outcome : results.result leaf.1 with
    | ready v => rfl
    | pending d =>
      simp only [List.not_mem_nil, if_false, Outcome.value?, Deferred.value?,
        if_pos (settled leaf member outcome), Option.getD_some]

theorem length_awaited_results :
    results.awaited.length =
      (tree.strings []).countP fun leaf => (results.result leaf.1).isPending := by
  have nodup := nodup_results distinct paths
  have counted : results.countP (fun result => result.2.isPending) =
      results.countP ((fun path => (results.result path).isPending) ∘ Prod.fst) := by
    refine List.countP_congr fun result member => ?_
    have found : results.lookup result.1 = some result.2 := Results.lookup_of_mem nodup member
    rw [Function.comp_apply, Results.result, found]
    rfl
  rw [Results.length_awaited, counted, ← List.countP_map, paths, List.countP_map]
  rfl

end

end Walk

namespace Outcome

theorem toValue_node (calls : Calls) (o : Outcome Value) :
    o.node.toValue calls = (o.value? calls).getD .null := by
  cases o <;> rfl

theorem isSettled_node (calls : Calls) (o : Outcome Value) :
    o.node.isSettled calls = (o.value? calls).isSome := by
  cases o with
  | ready v => rfl
  | pending d =>
    exact (d.isSome_value? calls).symm

theorem value?_congr {calls calls' : Calls} (o : Outcome Value)
    (same : ∀ id ∈ o.calls, calls.result? id = calls'.result? id) :
    o.value? calls = o.value? calls' := by
  cases o with
  | ready v => rfl
  | pending d =>
    have settled : d.isSettled calls = d.isSettled calls' := by
      refine Bool.eq_iff_iff.mpr ?_
      rw [Deferred.isSettled, Deferred.isSettled, Calls.allObserved, Calls.allObserved,
        List.all_eq_true, List.all_eq_true]
      refine forall₂_congr fun id member => ?_
      rw [Calls.isObserved, Calls.isObserved, same id member]
    have read : d.read calls.answers = d.read calls'.answers := by
      refine d.read_congr _ _ fun id member => ?_
      rw [Calls.answers, Calls.answers, same id member]
    rw [value?, value?, Deferred.value?, Deferred.value?, settled, read]

end Outcome

namespace Walk

/-- The tree as a walk leaves it, taken as one deferred value, arrives once all results have, and it
is then what the walk has come to. -/
theorem Settling.value?_deferred_eq_some_iff {tree : Value} {results : Results}
    {state : Walk × Journal} (settling : Settling tree results state) (distinct : tree.Distinct)
    (paths : results.map Prod.fst = (tree.strings []).map Prod.fst) {v : Value} :
    (tree.graft results.node).deferred.value? state.2.calls = some v ↔
      (∀ leaf ∈ tree.strings [], ((results.result leaf.1).value? state.2.calls).isSome = true) ∧
        v = state.1.tree.toValue state.2.calls := by
  have nodes (leaf : Path × String) (member : leaf ∈ tree.strings []) :
      results.node leaf.1 leaf.2 = (results.result leaf.1).node := by
    rw [Results.node, lookup_result distinct paths member]
  have settled : (tree.graft results.node).isSettled state.2.calls = true ↔
      ∀ leaf ∈ tree.strings [], ((results.result leaf.1).value? state.2.calls).isSome = true := by
    rw [Value.isSettled_graft_iff]
    refine forall₂_congr fun leaf member => ?_
    rw [nodes leaf member, Outcome.isSettled_node]
  have value : (tree.graft results.node).toValue state.2.calls =
      state.1.tree.toValue state.2.calls := by
    rw [settling.snapshot distinct paths]
    refine tree.toValue_graft_congr fun leaf member => ?_
    rw [nodes leaf member, Outcome.toValue_node]
    rfl
  rw [Partial.value?_deferred, value, ← settled]
  by_cases all : (tree.graft results.node).isSettled state.2.calls = true
  · simp [all, eq_comm]
  · simp [all]

/-- A moment of a walk that settles. Each string came to the given result. -/
structure Moment (tree : Value) (result : Path → Outcome Value) (state : Walk × Journal) :
    Prop where
  /-- The snapshot is the tree with all results that are observed; the others read as null. -/
  snapshot : state.1.tree.toValue state.2.calls = (tree.graft fun path _ =>
    .ready (((result path).value? state.2.calls).getD .null)).toValue state.2.calls
  /-- What is still to be written has its place in the tree. -/
  place : ∀ entry ∈ state.1.awaited, ∀ node,
    (Partial.set? entry.1 node state.1.tree).isSome = true
  /-- The next poll ends the walk exactly when all calls are finished, with a value or not. -/
  finished : (state.1.poll state.2).1.isDone = true ↔ ∀ leaf ∈ tree.strings [],
    ∀ id ∈ (result leaf.1).calls, state.2.calls.isFinished id = true
  /-- A walk that is done has every result, and nothing in its tree is pending. -/
  settled : state.1.isDone = true →
    (∀ leaf ∈ tree.strings [], ((result leaf.1).value? state.2.calls).isSome = true) ∧
      state.1.tree = tree.graft fun path _ =>
        .ready (((result path).value? state.2.calls).getD .null)

/-- Right after a walk the awaited places are those of the strings in flight. Whatever happens then,
and in any order, the walk writes each result to its own place, keeps it, and is done when all calls
are finished; what it then comes to depends on the results of its calls alone. -/
theorem run_settles (engine : Engine) (scope : Scope) (tree : Value) (journal : Journal)
    (distinct : tree.Distinct) :
    let walked := run engine scope tree journal
    ∃ result : Path → Outcome Value,
      (∀ leaf ∈ tree.strings [], walked.1.tree.get? leaf.1 = some (result leaf.1).node) ∧
      walked.1.awaited.length =
        (tree.strings []).countP (fun leaf => (result leaf.1).isPending) ∧
      ((walked.1.outcome walked.2.calls).isPending = false ↔
        ∀ leaf ∈ tree.strings [], (result leaf.1).isPending = false) ∧
      (∀ turns, Moment tree result (Turn.takeAll turns walked)) ∧
      (∀ turns more path v, (result path).value? (Turn.takeAll turns walked).2.calls = some v →
        (result path).value? (Turn.takeAll (turns ++ more) walked).2.calls = some v) ∧
      (∀ d, walked.1.outcome walked.2.calls = .pending d → ∀ turns v,
        let state := Turn.takeAll turns walked
        d.value? state.2.calls = some v ↔
          (∀ leaf ∈ tree.strings [], ((result leaf.1).value? state.2.calls).isSome = true) ∧
            v = state.1.tree.toValue state.2.calls) ∧
      ∀ turns turns', let state := Turn.takeAll turns walked
        let state' := Turn.takeAll turns' walked
        state.1.isDone = true → state'.1.isDone = true →
          (∀ leaf ∈ tree.strings [], ∀ id ∈ (result leaf.1).calls,
            state.2.calls.result? id = state'.2.calls.result? id) →
          state.1.tree = state'.1.tree := by
  intro walked
  obtain ⟨visits, visited⟩ := visited_run engine scope distinct journal
  have paths : (Visits.results journal.calls.length visits).map Prod.fst =
      (tree.strings []).map Prod.fst := by
    rw [Visits.map_fst_results, visited.paths]
  have awaited := visited.awaited_eq
  have written := visited.tree_eq
  have settling := visited.settling
  generalize Visits.results journal.calls.length visits = results at paths awaited written settling
  have length := length_awaited_results distinct paths
  have always (turns : List Turn) := settling.takeAll distinct paths turns
  refine ⟨results.result, ?_, ?_, ?_, fun turns => ⟨?_, ?_, ?_, ?_⟩, ?_, ?_, ?_⟩
  · intro leaf member
    rw [written, Value.get?_graft distinct member, Results.node,
      lookup_result distinct paths member]
  · rw [← length, ← awaited]
  · have ready : (walked.1.outcome walked.2.calls).isPending = !walked.1.awaited.isEmpty := by
      unfold outcome isDone
      cases walked.1.awaited <;> rfl
    rw [ready, awaited, Bool.not_eq_false', List.isEmpty_iff_length_eq_zero, length,
      List.countP_eq_zero]
    simp
  · exact (always turns).snapshot distinct paths
  · intro entry member node
    rw [(always turns).set?_eq distinct paths member node]
    rfl
  · exact (always turns).isDone_poll_iff distinct paths
  · exact (always turns).of_isDone distinct paths
  · intro turns more path v found
    rw [Turn.takeAll_append]
    exact (Turn.keep_takeAll more _).outcome_value? found
  · intro d waiting turns v state
    have deferred : d = walked.1.tree.deferred := by
      unfold outcome at waiting
      split at waiting
      · cases waiting
      · exact (Outcome.pending.inj waiting).symm
    rw [deferred, written]
    exact (always turns).value?_deferred_eq_some_iff distinct paths
  · intro turns turns' state state' done done' same
    rw [((always turns).of_isDone distinct paths done).2,
      ((always turns').of_isDone distinct paths done').2]
    refine tree.graft_congr fun leaf member => ?_
    rw [(results.result leaf.1).value?_congr (same leaf member)]

theorem classify_later :
    Template.classify "<$ later('lamp') $>" = .whole "later('lamp')" :=
  Template.classify_delimited (by cbv) (by cbv)

theorem parse_later : Expr.parse "later('lamp')" = .ok (.call "later" [.text "lamp"]) := by
  cbv

theorem distinct_later :
    (Value.object [("lamp", .text "<$ later('lamp') $>")]).Distinct := by
  have names : Fields.Distinct [("lamp", Value.text "<$ later('lamp') $>")] := by
    simp [Fields.Distinct, Fields.names]
  refine .object names ?_
  simp only [List.forall_mem_cons]
  exact ⟨.text _, List.forall_mem_nil _⟩

theorem evaluateTemplate_later (scope : Scope) (mode : Mode) (journal : Journal) :
    Engine.evaluateTemplate { registry := Expr.gated } scope mode "<$ later('lamp') $>" journal =
      (.pending ((Deferred.ofCall journal.calls.length).map (Engine.orFallback .null)),
        (journal.start (some "later('lamp')") (.waiting "gate")).2) := by
  have found : Expr.gated.find? "later" = some (.async fun _ => .waiting "gate") :=
    Registry.find?_register_self {} "later" "later" _ rfl
  have started (scope : Scope) : Expr.evalTail Expr.gated scope (.call "later" [.text "lamp"]) =
      .ok (.call (.waiting "gate")) :=
    (Expr.EndsIn.starts (.call rfl) found).1
  simp only [Engine.evaluateTemplate, classify_later, Engine.evaluate, Engine.evaluateOr,
    Engine.tryEvaluate, parse_later, Except.mapError, ok_bind, started]
  rfl

theorem run_later (scope : Scope) :
    run { registry := Expr.gated } scope
        (.object [("lamp", .text "<$ later('lamp') $>")]) {} = ({
      tree := .object [("lamp", .pending ((Deferred.ofCall 0).map (Engine.orFallback .null)))]
      awaited := [([.key "lamp"], (Deferred.ofCall 0).map (Engine.orFallback .null))] },
      { calls := [⟨some "later('lamp')", .waiting "gate"⟩] }) := by
  simp only [run, Value.strings, Value.fieldStrings, List.foldl, visit, evaluateTemplate_later,
    List.append_nil]
  rfl

/-- The functions of a host that answers each `later` behind a gate of its own. -/
def eachGated : Registry :=
  Registry.register { apart := Expr.apart_empty } "later" (.async fun args =>
    .waiting ((args.head?.bind Value.text?).getD ""))

theorem evaluateTemplate_eachGated {template source gate : String}
    (whole : Template.classify template = .whole source)
    (parsed : Expr.parse source = .ok (.call "later" [.text gate])) (scope : Scope)
    (journal : Journal) :
    Engine.evaluateTemplate { registry := eachGated } scope .structural template journal =
      (.pending ((Deferred.ofCall journal.calls.length).map (Engine.orFallback .null)),
        (journal.start (some source) (.waiting gate)).2) := by
  have found : eachGated.find? "later" = some (.async fun args =>
      .waiting ((args.head?.bind Value.text?).getD "")) :=
    Registry.find?_register_self _ "later" "later" _ rfl
  have started (scope : Scope) : Expr.evalTail eachGated scope (.call "later" [.text gate]) =
      .ok (.call (.waiting gate)) := by
    have values : Expr.evalAll eachGated scope [.text gate] = .ok [.text gate] := rfl
    exact (Expr.EndsIn.starts (.call values) found).1
  simp only [Engine.evaluateTemplate, whole, Engine.evaluate, Engine.evaluateOr,
    Engine.tryEvaluate, parsed, Except.mapError, ok_bind, started]
  rfl

theorem classify_fan : Template.classify "<$ later('fan') $>" = .whole "later('fan')" :=
  Template.classify_delimited (by cbv) (by cbv)

theorem parse_fan : Expr.parse "later('fan')" = .ok (.call "later" [.text "fan"]) := by
  cbv

theorem run_eachGated :
    run { registry := eachGated } { host := {} }
        (.object [("lamp", .text "<$ later('lamp') $>"), ("fan", .text "<$ later('fan') $>")]) {} = ({
      tree := .object [("lamp", .pending ((Deferred.ofCall 0).map (Engine.orFallback .null))),
        ("fan", .pending ((Deferred.ofCall 1).map (Engine.orFallback .null)))]
      awaited := [([.key "lamp"], (Deferred.ofCall 0).map (Engine.orFallback .null)),
        ([.key "fan"], (Deferred.ofCall 1).map (Engine.orFallback .null))] },
      { calls := [⟨some "later('lamp')", .waiting "lamp"⟩,
        ⟨some "later('fan')", .waiting "fan"⟩] }) := by
  simp only [run, Value.strings, Value.fieldStrings, List.append_nil, List.cons_append,
    List.nil_append, List.foldl, visit, evaluateTemplate_eachGated classify_later parse_later,
    evaluateTemplate_eachGated classify_fan parse_fan]
  rfl

/-- Two calls are under way, and the gate of the second is released first: its answer is in its place
while the first still reads as null. Released the other way round, they come to the same tree. -/
theorem run_settles_after_release :
    let tree := Value.object
      [("lamp", .text "<$ later('lamp') $>"), ("fan", .text "<$ later('fan') $>")]
    let walked := run { registry := eachGated } { host := {} } tree {}
    let lamp : List Turn := [.release "lamp" (.ok (.text "off")), .poll]
    let fan : List Turn := [.release "fan" (.ok (.text "on")), .poll]
    let between := Turn.takeAll fan walked
    let state := Turn.takeAll (fan ++ lamp) walked
    let other := Turn.takeAll (lamp ++ fan) walked
    tree.Distinct ∧ walked.1.awaited.length = 2 ∧
      (walked.1.outcome walked.2.calls).isPending = true ∧
      between.1.isDone = false ∧
      between.1.tree.toValue between.2.calls = .object [("lamp", .null), ("fan", .text "on")] ∧
      state.1.isDone = true ∧ other.1.isDone = true ∧ other.1.tree = state.1.tree ∧
      state.1.tree = .object [("lamp", .ready (.text "off")), ("fan", .ready (.text "on"))] := by
  intro tree walked lamp fan between state other
  have distinct : tree.Distinct := by
    refine .object (by simp [Fields.Distinct, Fields.names]) ?_
    simp only [List.forall_mem_cons]
    exact ⟨.text _, .text _, List.forall_mem_nil _⟩
  have walked_eq : walked = _ := run_eachGated
  obtain ⟨result, nodes, length, ready, -, -, -, confluent⟩ :=
    run_settles { registry := eachGated } { host := {} } tree {} distinct
  have leaves : tree.strings [] =
      [([.key "lamp"], "<$ later('lamp') $>"), ([.key "fan"], "<$ later('fan') $>")] := rfl
  have flying {path : Path} {d : Deferred Value} {s : String} (leaf : (path, s) ∈ tree.strings [])
      (found : walked.1.tree.get? path = some (.pending d)) : result path = .pending d := by
    have node := (nodes (path, s) leaf).symm.trans found
    cases outcome : result path with
    | ready v => simp [outcome, Outcome.node] at node
    | pending other => simpa [outcome, Outcome.node] using node
  have lampFlying : result [.key "lamp"] =
      .pending ((Deferred.ofCall 0).map (Engine.orFallback .null)) :=
    flying (s := "<$ later('lamp') $>") (by simp [leaves]) (by rw [walked_eq]; rfl)
  have fanFlying : result [.key "fan"] =
      .pending ((Deferred.ofCall 1).map (Engine.orFallback .null)) :=
    flying (s := "<$ later('fan') $>") (by simp [leaves]) (by rw [walked_eq]; rfl)
  have isDone_state : state.1.isDone = true := by
    simp only [state, walked_eq]
    rfl
  have isDone_other : other.1.isDone = true := by
    simp only [other, walked_eq]
    rfl
  refine ⟨distinct, ?_, ?_, ?_, ?_, isDone_state, isDone_other, ?_, ?_⟩
  · rw [length, leaves]
    simp [lampFlying, fanFlying, Outcome.isPending]
  · refine Bool.not_eq_false _ |>.mp fun idle => ?_
    have landed := ready.mp idle ([.key "lamp"], "<$ later('lamp') $>") (by simp [leaves])
    rw [lampFlying] at landed
    cases landed
  · simp only [between, walked_eq]
    rfl
  · simp only [between, walked_eq]
    rfl
  · have calls_eq : other.2.calls = state.2.calls := by
      simp only [other, state, walked_eq]
      rfl
    exact confluent (lamp ++ fan) (fan ++ lamp) isDone_other isDone_state
      fun leaf _ id _ => congrArg (Calls.result? · id) calls_eq
  · simp only [state, walked_eq]
    rfl

end Walk

end LiveConfig
