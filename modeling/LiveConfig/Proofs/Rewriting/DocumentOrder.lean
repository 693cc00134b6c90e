import Mathlib
import LiveConfig.Proofs.Rewriting.Draft
import LiveConfig.Proofs.Rewriting.Graft

set_option autoImplicit false

namespace LiveConfig

/-- The outcomes of some strings with the paths to them, in the order of their evaluation. -/
abbrev Results := List (Path × Outcome Value)

namespace Results

/-- What a walk has in the place of a string. -/
def node (results : Results) (path : Path) (text : String) : Partial :=
  match results.lookup path with
  | some outcome => outcome.node
  | none => .ready (.text text)

/-- What an expression sees in the place of a string: its result, null as long as that is in flight,
and the text of a string that is not evaluated yet. -/
def seen (results : Results) (path : Path) (text : String) : Partial :=
  match results.lookup path with
  | some outcome => .ready (outcome.ready?.getD .null)
  | none => .ready (.text text)

def awaited? (result : Path × Outcome Value) : Option (Path × Deferred Value) :=
  match result.2 with
  | .ready _ => none
  | .pending d => some (result.1, d)

/-- The places whose results are in flight. -/
def awaited (results : Results) : List (Path × Deferred Value) :=
  results.filterMap awaited?

theorem lookup_concat (results : Results) (path other : Path) (outcome : Outcome Value) :
    (results ++ [(path, outcome)]).lookup other =
      (results.lookup other).or (if other = path then some outcome else none) := by
  rw [List.lookup_append]
  by_cases same : other = path
  · simp [List.lookup, same]
  · simp [List.lookup, same, beq_eq_false_iff_ne.mpr same]

theorem lookup_eq_none_of_notMem {results : Results} {path : Path}
    (absent : path ∉ results.map Prod.fst) : results.lookup path = none := by
  induction results with
  | nil => rfl
  | cons result rest ih =>
    rw [List.map_cons, List.mem_cons, not_or] at absent
    simp [List.lookup, beq_eq_false_iff_ne.mpr absent.1, ih absent.2]

theorem lookup_of_getElem? {results : Results} (nodup : (results.map Prod.fst).Nodup) {k : Nat}
    {path : Path} {outcome : Outcome Value} (found : results[k]? = some (path, outcome)) :
    results.lookup path = some outcome := by
  induction results generalizing k with
  | nil => simp at found
  | cons result rest ih =>
    obtain ⟨fresh, distinct⟩ := List.nodup_cons.mp nodup
    cases k with
    | zero =>
      obtain rfl : result = (path, outcome) := by simpa using found
      simp [List.lookup]
    | succ k =>
      have later : rest[k]? = some (path, outcome) := by simpa using found
      have differ : path ≠ result.1 := by
        rintro rfl
        exact fresh (List.mem_map.mpr ⟨_, List.mem_of_getElem? later, rfl⟩)
      simp [List.lookup, beq_eq_false_iff_ne.mpr differ, ih distinct later]

theorem mem_of_lookup {results : Results} {path : Path} {outcome : Outcome Value}
    (found : results.lookup path = some outcome) : (path, outcome) ∈ results := by
  obtain ⟨before, after, rfl, _⟩ := List.lookup_eq_some_iff.mp found
  exact List.mem_append_right _ List.mem_cons_self

theorem node_concat {results : Results} {path : Path} (absent : path ∉ results.map Prod.fst)
    (outcome : Outcome Value) :
    node (results ++ [(path, outcome)]) = Value.replaced (node results) path outcome.node := by
  funext other text
  unfold node Value.replaced
  rw [lookup_concat]
  by_cases same : other = path
  · rw [same, lookup_eq_none_of_notMem absent]
    simp
  · simp [same]

end Results

/-- What the strings of a walk came to, with the paths to them. -/
abbrev Visits := List (Path × Draft)

namespace Visits

def started (visits : Visits) : Calls :=
  visits.flatMap fun visit => visit.2.started

def reported (visits : Visits) : List Event :=
  visits.flatMap fun visit => visit.2.reported

/-- The results when the next call has the given number. -/
def results (id : CallId) : Visits → Results
  | [] => []
  | (path, draft) :: rest =>
    (path, draft.outcome id) :: results (id + draft.started.length) rest

/-- All drafts entered, one after another. -/
def enter (visits : Visits) (journal : Journal) : Journal where
  calls := journal.calls ++ started visits
  events := journal.events ++ reported visits

theorem map_fst_results (id : CallId) (visits : Visits) :
    (results id visits).map Prod.fst = visits.map Prod.fst := by
  induction visits generalizing id with
  | nil => rfl
  | cons visit rest ih => rw [results, List.map_cons, List.map_cons, ih]

theorem results_concat (id : CallId) (visits : Visits) (path : Path) (draft : Draft) :
    results id (visits ++ [(path, draft)]) =
      results id visits ++ [(path, draft.outcome (id + (started visits).length))] := by
  induction visits generalizing id with
  | nil => rfl
  | cons visit rest ih =>
    rw [List.cons_append, results, results, ih, List.cons_append]
    simp [started, Nat.add_assoc]

theorem take_results (id : CallId) (visits : Visits) (k : Nat) :
    (results id visits).take k = results id (visits.take k) := by
  induction visits generalizing id k with
  | nil => simp [results]
  | cons visit rest ih =>
    cases k with
    | zero => rfl
    | succ k => rw [results, List.take_succ_cons, List.take_succ_cons, results, ih]

theorem getElem?_results (id : CallId) (visits : Visits) (k : Nat) :
    (results id visits)[k]? = visits[k]?.map fun visit =>
      (visit.1, visit.2.outcome (id + (started (visits.take k)).length)) := by
  induction visits generalizing id k with
  | nil => simp [results]
  | cons visit rest ih =>
    cases k with
    | zero => simp [results, started]
    | succ k =>
      rw [results, List.getElem?_cons_succ, List.getElem?_cons_succ, ih]
      simp [started, Nat.add_assoc]

theorem enter_concat (visits : Visits) (path : Path) (draft : Draft) (journal : Journal) :
    enter (visits ++ [(path, draft)]) journal = (enter visits journal).enter draft := by
  simp [enter, Journal.enter, started, reported]

theorem unobserved_started (visits : Visits) : (started visits).Unobserved := by
  intro call member
  obtain ⟨visit, _, inside⟩ := List.mem_flatMap.mp member
  exact visit.2.unobserved_started call inside

theorem result?_enter (visits : Visits) (journal : Journal) :
    (enter visits journal).calls.result? = journal.calls.result? :=
  Calls.result?_append (unobserved_started visits) journal.calls

end Visits

theorem Draft.value?_of_pending {draft : Draft} {id : CallId} {d : Deferred Value}
    (pending : draft.outcome id = .pending d) {calls : Calls} (missing : calls.result? id = none) :
    d.value? calls = none := by
  have nonempty : draft.started ≠ [] := by
    have flag := draft.isPending_outcome id
    rw [pending] at flag
    simpa [Outcome.isPending] using flag
  have first : id ∈ d.calls := by
    have numbers := draft.calls_outcome id
    rw [pending] at numbers
    rw [show d.calls = _ from numbers, List.mem_range'_1]
    exact ⟨Nat.le_refl id, Nat.lt_add_of_pos_right (List.length_pos_of_ne_nil nonempty)⟩
  have unsettled : d.isSettled calls = false := by
    refine Bool.eq_false_iff.mpr fun settled => ?_
    have observed := List.all_eq_true.mp settled id first
    simp [Calls.isObserved, missing] at observed
  simp [Deferred.value?, unsettled]

theorem Calls.result?_eq_none_of_length_le {calls : Calls} {id : CallId}
    (beyond : calls.length ≤ id) : calls.result? id = none := by
  simp only [Calls.result?, List.getElem?_eq_none beyond]

theorem Visits.value?_of_mem_results {visits : Visits} {journal : Journal} {path : Path}
    {d : Deferred Value}
    (member : (path, .pending d) ∈ Visits.results journal.calls.length visits) :
    d.value? (Visits.enter visits journal).calls = none := by
  obtain ⟨k, found⟩ := List.getElem?_of_mem member
  rw [getElem?_results, Option.map_eq_some_iff] at found
  obtain ⟨visit, _, same⟩ := found
  refine Draft.value?_of_pending (Prod.mk.inj same).2 ?_
  rw [result?_enter]
  exact Calls.result?_eq_none_of_length_le (Nat.le_add_right _ _)

/-- The expression stands in a string of the tree. -/
def Value.Embeds (tree : Value) (e : Expr) : Prop :=
  ∃ leaf ∈ tree.strings [], Template.Embeds leaf.2 e

namespace Walk

/-- A walk after some strings of its tree: which drafts they came to and what became of them. -/
structure Visited (engine : Engine) (scope : Scope) (tree : Value) (start : Journal)
    (done : List (Path × String)) (visits : Visits) (state : Walk × Journal) : Prop where
  paths : visits.map Prod.fst = done.map Prod.fst
  drafts : ∀ k leaf, done[k]? = some leaf → visits[k]? = some (leaf.1, engine.draft
    { scope with
      output := some (tree.graft (Results.seen (Visits.results start.calls.length (visits.take k))))
      calls := start.calls } .structural leaf.2)
  tree_eq : state.1.tree = tree.graft (Results.node (Visits.results start.calls.length visits))
  awaited_eq : state.1.awaited = Results.awaited (Visits.results start.calls.length visits)
  journal_eq : state.2 = Visits.enter visits start

section

variable {engine : Engine} {scope : Scope} {tree : Value} {start : Journal}

theorem visited_start (engine : Engine) (scope : Scope) (tree : Value) (start : Journal) :
    Visited engine scope tree start [] [] ({ tree := .ofValue tree }, start) where
  paths := rfl
  drafts := by simp
  tree_eq := tree.ofValue_eq_graft
  awaited_eq := rfl
  journal_eq := by simp [Visits.enter, Visits.started, Visits.reported]

/-- In the middle of a walk `output` is the tree with the results so far. -/
theorem Visited.toValue_eq {done : List (Path × String)} {visits : Visits}
    {state : Walk × Journal} (visited : Visited engine scope tree start done visits state) :
    state.1.tree.toValue state.2.calls =
      (tree.graft (Results.seen (Visits.results start.calls.length visits))).toValue
        start.calls := by
  rw [visited.tree_eq, visited.journal_eq]
  refine tree.toValue_graft_congr fun leaf _ => ?_
  unfold Results.node Results.seen
  cases found : (Visits.results start.calls.length visits).lookup leaf.1 with
  | none => rfl
  | some outcome =>
    cases outcome with
    | ready v => rfl
    | pending d =>
      have member := Results.mem_of_lookup found
      simp [Outcome.node, Partial.toValue, Outcome.ready?, Visits.value?_of_mem_results member]

theorem write_eq (walk : Walk) {calls : Calls} (path : Path) {outcome : Outcome Value}
    (flying : ∀ d, outcome = .pending d → d.value? calls = none) :
    walk.write calls path outcome =
      { tree := walk.tree.set path outcome.node
        awaited := walk.awaited ++ Results.awaited [(path, outcome)] } := by
  cases outcome with
  | ready v => simp [write, Outcome.node, Results.awaited, Results.awaited?]
  | pending d =>
    simp [write, Outcome.node, Results.awaited, Results.awaited?, Partial.ofDeferred, flying d rfl]

/-- A string is drafted with the calls of the start: those of the walk are not observed yet. -/
theorem evaluateTemplate_eq_of_shown (engine : Engine) (scope : Scope) {start journal : Journal}
    {shown shown' : Partial}
    (results : journal.calls.result? = start.calls.result?)
    (same : shown.toValue journal.calls = shown'.toValue start.calls) (text : String) :
    let draft := engine.draft { scope with output := some shown', calls := start.calls }
      .structural text
    engine.evaluateTemplate { scope with output := some shown } .structural text journal =
      (draft.outcome journal.calls.length, journal.enter draft) := by
  have alike : Scope.Alike { scope with output := some shown, calls := journal.calls }
      { scope with output := some shown', calls := start.calls } := ⟨rfl, rfl, rfl, results⟩
  have output : Scope.outputValue? { scope with output := some shown, calls := journal.calls } =
      Scope.outputValue? { scope with output := some shown', calls := start.calls } :=
    congrArg some same
  rw [engine.evaluateTemplate_eq]
  simp only [engine.draft_congr alike .structural (Or.inr output)]

theorem Visited.step {done : List (Path × String)} {visits : Visits} {state : Walk × Journal}
    (visited : Visited engine scope tree start done visits state) (distinct : tree.Distinct)
    {leaf : Path × String} (member : leaf ∈ tree.strings [])
    (fresh : leaf.1 ∉ done.map Prod.fst) :
    ∃ draft, Visited engine scope tree start (done ++ [leaf]) (visits ++ [(leaf.1, draft)])
      (visit engine scope state leaf) := by
  have results : state.2.calls.result? = start.calls.result? := by
    rw [visited.journal_eq, Visits.result?_enter]
  have length : state.2.calls.length = start.calls.length + (Visits.started visits).length := by
    rw [visited.journal_eq]
    exact List.length_append
  have evaluated := evaluateTemplate_eq_of_shown engine scope results
    visited.toValue_eq leaf.2
  generalize drafted : engine.draft _ .structural leaf.2 = draft at evaluated
  have new : leaf.1 ∉ (Visits.results start.calls.length visits).map Prod.fst := by
    rwa [Visits.map_fst_results, visited.paths]
  -- The string started this call itself, so its place is written with a leaf under way.
  have flying (d : Deferred Value) (pending : draft.outcome state.2.calls.length = .pending d) :
      d.value? (state.2.enter draft).calls = none := by
    refine Draft.value?_of_pending pending ?_
    rw [Journal.result?_enter]
    exact Calls.result?_eq_none_of_length_le (Nat.le_refl _)
  have written : visit engine scope state leaf =
      (state.1.write (state.2.enter draft).calls leaf.1 (draft.outcome state.2.calls.length),
        state.2.enter draft) := by
    simp only [visit, evaluated]
  rw [write_eq state.1 leaf.1 flying, length] at written
  have last : visits.length = done.length := by
    simpa using congrArg List.length visited.paths
  refine ⟨draft, ?_, ?_, ?_, ?_, ?_⟩
  · simp [visited.paths]
  · intro k other found
    rw [List.getElem?_append] at found ⊢
    rw [last]
    by_cases earlier : k < done.length
    · rw [if_pos earlier] at found ⊢
      rw [visited.drafts k other found, List.take_append_of_le_length (by omega)]
    · rw [if_neg earlier] at found ⊢
      obtain ⟨at_end, rfl⟩ : k = done.length ∧ leaf = other := by
        have inside := (List.getElem?_eq_some_iff.mp found).1
        rw [List.length_singleton] at inside
        have position : k - done.length = 0 := by omega
        rw [position] at found
        exact ⟨by omega, by simpa using found⟩
      rw [at_end, Nat.sub_self, ← last, List.take_left' rfl, drafted]
      rfl
  · rw [written, Visits.results_concat, Results.node_concat new, visited.tree_eq, Partial.set,
      Value.set?_graft distinct member]
    rfl
  · rw [written, Visits.results_concat, visited.awaited_eq, Results.awaited, Results.awaited,
      Results.awaited, List.filterMap_append]
  · rw [written, Visits.enter_concat, visited.journal_eq]

/-- The walk after the first strings of its tree. -/
def before (engine : Engine) (scope : Scope) (tree : Value) (start : Journal) (k : Nat) :
    Walk × Journal :=
  ((tree.strings []).take k).foldl (visit engine scope) ({ tree := .ofValue tree }, start)

theorem before_length (engine : Engine) (scope : Scope) (tree : Value) (start : Journal) :
    before engine scope tree start (tree.strings []).length = run engine scope tree start := by
  rw [before, List.take_length]
  rfl

theorem visited_before (engine : Engine) (scope : Scope) {tree : Value} (distinct : tree.Distinct)
    (start : Journal) (k : Nat) :
    ∃ visits, Visited engine scope tree start ((tree.strings []).take k) visits
      (before engine scope tree start k) := by
  have prefixes (done : List (Path × String)) (inside : ∀ leaf ∈ done, leaf ∈ tree.strings [])
      (nodup : (done.map Prod.fst).Nodup) : ∃ visits,
        Visited engine scope tree start done visits
          (done.foldl (visit engine scope) ({ tree := .ofValue tree }, start)) := by
    induction done using List.reverseRecOn with
    | nil => exact ⟨[], visited_start engine scope tree start⟩
    | append_singleton done leaf ih =>
      rw [List.map_append, List.nodup_append] at nodup
      obtain ⟨earlier, _, apart⟩ := nodup
      obtain ⟨visits, visited⟩ := ih
        (fun other member => inside other (List.mem_append_left _ member)) earlier
      have fresh : leaf.1 ∉ done.map Prod.fst := fun member =>
        apart _ member leaf.1 (by simp) rfl
      obtain ⟨draft, next⟩ := visited.step distinct (inside leaf (by simp)) fresh
      exact ⟨visits ++ [(leaf.1, draft)], by simpa using next⟩
  refine prefixes _ (fun _ member => List.mem_of_mem_take member) ?_
  exact (Value.nodup_paths distinct).sublist ((List.take_sublist k _).map _)

/-- A whole walk visits every string of its tree. -/
theorem visited_run (engine : Engine) (scope : Scope) {tree : Value} (distinct : tree.Distinct)
    (start : Journal) : ∃ visits, Visited engine scope tree start (tree.strings []) visits
      (run engine scope tree start) := by
  have whole := visited_before engine scope distinct start (tree.strings []).length
  rwa [before_length, List.take_length] at whole

theorem Visited.get?_eq {visits : Visits} {state : Walk × Journal}
    (visited : Visited engine scope tree start (tree.strings []) visits state)
    (distinct : tree.Distinct) {k : Nat} {leaf : Path × String}
    (found : (tree.strings [])[k]? = some leaf) {draft : Draft}
    (drafted : visits[k]? = some (leaf.1, draft)) :
    state.1.tree.get? leaf.1 = some (draft.outcome
      (start.calls.length + (Visits.started (visits.take k)).length)).node := by
  have nodup : ((Visits.results start.calls.length visits).map Prod.fst).Nodup := by
    rw [Visits.map_fst_results, visited.paths]
    exact Value.nodup_paths distinct
  have result := Visits.getElem?_results start.calls.length visits k
  rw [drafted, Option.map_some] at result
  rw [visited.tree_eq, Value.get?_graft distinct (List.mem_of_getElem? found), Results.node,
    Results.lookup_of_getElem? nodup result]

theorem Visited.holds {done : List (Path × String)} {visits : Visits} {state : Walk × Journal}
    (visited : Visited engine scope tree start done visits state) {k : Nat} {path : Path}
    {draft : Draft} (drafted : visits[k]? = some (path, draft)) :
    state.2.calls.Holds (start.calls.length + (Visits.started (visits.take k)).length)
      draft.started := by
  have split : visits = visits.take k ++ (path, draft) :: visits.drop (k + 1) := by
    have inside := (List.getElem?_eq_some_iff.mp drafted).1
    have here : visits[k] = (path, draft) := by
      simpa [List.getElem?_eq_getElem inside] using drafted
    rw [← here, ← List.drop_eq_getElem_cons inside, List.take_append_drop]
  have calls : state.2.calls = (start.calls ++ Visits.started (visits.take k)) ++
      (draft.started ++ Visits.started (visits.drop (k + 1))) := by
    rw [visited.journal_eq]
    show start.calls ++ Visits.started visits = _
    conv => lhs; rw [split]
    simp [Visits.started]
  rw [calls, ← List.length_append]
  exact Calls.holds_append _ _ _

theorem Visited.drafts_of_blind {visits : Visits} {state : Walk × Journal}
    (visited : Visited engine scope tree start (tree.strings []) visits state)
    (blind : ∀ e, tree.Embeds e → e.Blind scope) {k : Nat} {leaf : Path × String}
    (found : (tree.strings [])[k]? = some leaf) :
    visits[k]? = some (leaf.1,
      engine.draft { scope with calls := start.calls } .structural leaf.2) := by
  have alike : Scope.Alike
      { scope with
        output := some (tree.graft
          (Results.seen (Visits.results start.calls.length (visits.take k))))
        calls := start.calls }
      { scope with calls := start.calls } := ⟨rfl, rfl, rfl, rfl⟩
  have unread (e : Expr) (embedded : Template.Embeds leaf.2 e) : e.Blind scope :=
    blind e ⟨leaf, List.mem_of_getElem? found, embedded⟩
  rw [visited.drafts k leaf found]
  exact congrArg (fun draft => some (leaf.1, draft))
    (engine.draft_congr alike .structural (Or.inl ⟨rfl, unread⟩))

theorem same_of_blind (distinct : tree.Distinct) (blind : ∀ e, tree.Embeds e → e.Blind scope)
    {path : Path} {text : String} (member : (path, text) ∈ tree.strings []) {calls : Calls}
    {id : CallId} (holds : calls.Holds id
      (engine.draft { scope with calls := start.calls } .structural text).started) :
    ∃ node, (run engine scope tree start).1.tree.get? path = some node ∧
      node.Same (run engine scope tree start).2.calls calls
        ((engine.draft { scope with calls := start.calls } .structural text).outcome id).node := by
  obtain ⟨visits, visited⟩ := visited_run engine scope distinct start
  obtain ⟨k, found⟩ := List.getElem?_of_mem member
  have drafted := visited.drafts_of_blind blind found
  exact ⟨_, visited.get?_eq distinct found drafted,
    Draft.same_node _ (visited.holds drafted) holds⟩

end

/-- A walk is the rewriting of the strings of its tree in document order. Names, their order, the
lengths of arrays and all other scalars stay; each string becomes its outcome, evaluated while
`output` is the tree with the results of the strings before it in their places. Where no expression
reads `output`, what a string becomes depends on nothing else in the tree. -/
theorem run_in_document_order (engine : Engine) (scope : Scope) (tree : Value) (journal : Journal)
    (distinct : tree.Distinct) :
    let walked := run engine scope tree journal
    (∃ (results : Results) (moments : Nat → Journal),
      results.map Prod.fst = (tree.strings []).map Prod.fst ∧ moments 0 = journal ∧
      walked.1.tree = tree.graft (Results.node results) ∧ walked.2 = moments results.length ∧
      ∀ k path text, (tree.strings [])[k]? = some (path, text) →
        ∃ outcome, results[k]? = some (path, outcome) ∧
          engine.evaluateTemplate
              { scope with output := some (tree.graft (Results.seen (results.take k))) }
              .structural text (moments k) = (outcome, moments (k + 1))) ∧
    ((∀ e, tree.Embeds e → e.Blind scope) →
      (∀ path text, (path, text) ∈ tree.strings [] →
        let alone := engine.evaluateTemplate scope .structural text journal
        ∃ node, walked.1.tree.get? path = some node ∧
          node.Same walked.2.calls alone.2.calls alone.1.node) ∧
      ∀ other : Value, other.Distinct → (∀ e, other.Embeds e → e.Blind scope) →
        let walked' := run engine scope other journal
        ∀ path path' text, (path, text) ∈ tree.strings [] → (path', text) ∈ other.strings [] →
          ∃ node node', walked.1.tree.get? path = some node ∧
            walked'.1.tree.get? path' = some node' ∧
            node.Same walked.2.calls walked'.2.calls node') := by
  obtain ⟨visits, visited⟩ := visited_run engine scope distinct journal
  refine ⟨⟨Visits.results journal.calls.length visits, fun k => Visits.enter (visits.take k) journal,
    ?_, ?_, visited.tree_eq, ?_, ?_⟩, fun blind => ⟨?_, ?_⟩⟩
  · rw [Visits.map_fst_results, visited.paths]
  · simp [Visits.enter, Visits.started, Visits.reported]
  · have length : (Visits.results journal.calls.length visits).length = visits.length := by
      simpa using congrArg List.length (Visits.map_fst_results journal.calls.length visits)
    simp only [length, List.take_length]
    exact visited.journal_eq
  · intro k path text found
    have results := Visits.result?_enter (visits.take k) journal
    have evaluated := evaluateTemplate_eq_of_shown engine scope results
      (Partial.toValue_congr results (tree.graft
        (Results.seen (Visits.results journal.calls.length (visits.take k))))) text
    have drafted := visited.drafts k (path, text) found
    generalize engine.draft _ .structural text = draft at evaluated drafted
    have result := Visits.getElem?_results journal.calls.length visits k
    rw [drafted, Option.map_some] at result
    have next : Visits.enter (visits.take (k + 1)) journal =
        (Visits.enter (visits.take k) journal).enter draft := by
      rw [List.take_add_one, drafted]
      exact Visits.enter_concat _ _ _ journal
    have number : (Visits.enter (visits.take k) journal).calls.length =
        journal.calls.length + (Visits.started (visits.take k)).length := List.length_append
    refine ⟨_, result, ?_⟩
    show engine.evaluateTemplate _ .structural text (Visits.enter (visits.take k) journal) =
      (_, Visits.enter (visits.take (k + 1)) journal)
    rw [Visits.take_results, next, ← number]
    exact evaluated
  · intro path text member alone
    have evaluated : alone = _ := engine.evaluateTemplate_eq scope .structural text journal
    rw [evaluated]
    refine same_of_blind distinct blind member ?_
    simpa [Journal.enter] using Calls.holds_append journal.calls
      (engine.draft { scope with calls := journal.calls } .structural text).started []
  · intro other distinct' blind' walked' path path' text member member'
    obtain ⟨visits', visited'⟩ := visited_run engine scope distinct' journal
    obtain ⟨k, found⟩ := List.getElem?_of_mem member'
    have drafted := visited'.drafts_of_blind blind' found
    obtain ⟨node, here, same⟩ := same_of_blind distinct blind member (visited'.holds drafted)
    exact ⟨node, _, here, visited'.get?_eq distinct' found drafted, same⟩

/-- In `{on: on, copy: <$ output.on $>}` the second string reads what the first came to. -/
theorem run_reads_earlier :
    let tree := Value.object [("on", .text "on"), ("copy", .text "<$ output.on $>")]
    tree.Distinct ∧ (run {} { host := {} } tree {}).1.tree =
      .object [("on", .ready (.text "on")), ("copy", .ready (.text "on"))] := by
  intro tree
  have distinct : tree.Distinct := by
    have names : Fields.Distinct [("on", Value.text "on"), ("copy", .text "<$ output.on $>")] := by
      simp [Fields.Distinct, Fields.names]
    refine .object names ?_
    simp only [List.forall_mem_cons]
    exact ⟨.text _, .text _, List.forall_mem_nil _⟩
  have plain : Template.classify "on" = .plain := by cbv
  have whole : Template.classify "<$ output.on $>" = .whole "output.on" :=
    Template.classify_delimited (by cbv) (by cbv)
  have parsed : Expr.parse "output.on" = .ok (.member (.name "output") "on") := by cbv
  obtain ⟨⟨results, moments, paths, -, written, -, each⟩, -⟩ :=
    run_in_document_order {} { host := {} } tree {} distinct
  obtain ⟨outcome, found, evaluated⟩ := each 0 [.key "on"] "on" rfl
  obtain ⟨outcome', found', evaluated'⟩ := each 1 [.key "copy"] "<$ output.on $>" rfl
  have on : outcome = .ready (.text "on") := by
    rw [Engine.evaluateTemplate, plain] at evaluated
    exact (congrArg Prod.fst evaluated).symm
  have differ : (([.key "copy"] : Path) == [.key "on"]) = false := by decide
  have seen : tree.graft (Results.seen (results.take 1)) =
      .object [("on", .ready (.text "on")), ("copy", .ready (.text "<$ output.on $>"))] := by
    have first : results.take 1 = [([.key "on"], .ready (.text "on"))] := by
      rw [List.take_one, List.head?_eq_getElem?, found, on]
      rfl
    simp [first, tree, Value.graftFields, Results.seen, List.lookup, differ, Outcome.ready?]
  have copy : outcome' = .ready (.text "on") := by
    have value (calls : Calls) : Expr.evalTail {}
        { host := {}, output := some (tree.graft (Results.seen (results.take 1))), calls := calls }
        (.member (.name "output") "on") = .ok (.value (.text "on")) := by
      rw [seen]
      simp [Expr.evalTail, Expr.eval, Scope.lookup, Scope.binding?, Scope.builtinName,
        Partial.toValue, Partial.toFields, Value.property, Value.field, Fields.find?]
    rw [Engine.evaluateTemplate, whole] at evaluated'
    simp only [Engine.evaluate, Engine.evaluateOr, Engine.tryEvaluate, parsed, Except.mapError,
      ok_bind, value] at evaluated'
    exact (congrArg Prod.fst evaluated').symm
  have all : results =
      [([.key "on"], .ready (.text "on")), ([.key "copy"], .ready (.text "on"))] := by
    rw [on] at found
    rw [copy] at found'
    have length : results.length = 2 := by
      rw [← List.length_map Prod.fst, paths]
      rfl
    refine List.ext_getElem? fun k => ?_
    obtain _ | _ | k := k
    · exact found
    · exact found'
    · simp [length]
  refine ⟨distinct, ?_⟩
  rw [written, all]
  simp [tree, Value.graftFields, Results.node, List.lookup, Outcome.node, differ]

end Walk

end LiveConfig
