import LiveConfig.Proofs.Rewriting.Rejections
import LiveConfig.Proofs.Rewriting.Tracking
import LiveConfig.Proofs.Variables.Building

set_option autoImplicit false

namespace LiveConfig

theorem Turn.evolves_takeAll (turns : List Turn) (state : Walk × Journal) :
    state.2.Evolves (Turn.takeAll turns state).2 := by
  refine List.foldlRecOn (motive := fun later => state.2.Evolves later.2) turns Turn.take .refl
    fun later before turn _ => ?_
  cases turn with
  | takeUp place =>
    obtain ⟨ids, polled⟩ := Walk.journal_takeUp later place
    rw [Turn.take, polled]
    exact before.poll ids
  | poll =>
    obtain ⟨ids, polled⟩ := later.1.journal_poll later.2
    rw [Turn.take, polled]
    exact before.poll ids
  | start blame reply => exact before.start blame reply
  | release gate result => exact before.release gate result
  | rejectWaiting message => exact before.rejectWaiting message
  | observe id => exact before.observe id

/-- A tree that is taken as one value waits for all the calls of its strings. -/
theorem Walk.Visited.isObserved {engine : Engine} {scope : Scope} {tree : Value} {start : Journal}
    {visits : Visits} {state : Walk × Journal}
    (visited : Visited engine scope tree start (tree.strings []) visits state)
    (distinct : tree.Distinct) {later : Calls}
    (arrived : ((state.1.outcome state.2.calls).value? later).isSome = true) {id : CallId}
    (own : start.calls.length ≤ id) (started : id < state.2.calls.length) :
    later.isObserved id = true := by
  have paths := visited.paths_results
  have length : state.2.calls.length = start.calls.length + (Visits.started visits).length := by
    rw [visited.journal_eq]
    exact List.length_append
  have number : id ∈ List.range' start.calls.length (Visits.started visits).length := by
    rw [List.mem_range'_1, ← length]
    exact ⟨own, started⟩
  rw [← Visits.calls_results] at number
  obtain ⟨⟨path, outcome⟩, listed, waited⟩ := List.mem_flatMap.mp number
  cases outcome with
  | ready v => cases waited
  | pending d =>
    have busy : state.1.isDone ≠ true := by
      intro done
      have awaited := Results.mem_awaited.mpr listed
      rw [← visited.awaited_eq, List.isEmpty_iff.mp done] at awaited
      cases awaited
    have place : path ∈ (tree.strings []).map Prod.fst := paths ▸ List.mem_map_of_mem listed
    obtain ⟨leaf, inside, rfl⟩ := List.mem_map.mp place
    rw [outcome, if_neg busy, Outcome.value?, Deferred.isSome_value?,
      Partial.isSettled_deferred] at arrived
    rw [visited.tree_eq, Value.isSettled_graft_iff] at arrived
    have node := arrived leaf inside
    rw [Results.node, Results.lookup_of_mem (nodup_results distinct paths) listed] at node
    exact List.all_eq_true.mp node id waited

namespace Environment

theorem isObserved_of_arrived (engine : Engine) (scope : Scope) {value : Value}
    (distinct : value.Distinct) (journal : Journal) {later : Calls}
    (arrived : ((evaluateEntry engine scope value journal).1.value? later).isSome = true)
    {id : CallId} (own : journal.calls.length ≤ id)
    (started : id < (evaluateEntry engine scope value journal).2.calls.length) :
    later.isObserved id = true := by
  cases value with
  | text template =>
    rw [evaluateEntry, engine.evaluateTemplate_eq] at arrived started
    refine Outcome.isObserved_of_isSome arrived ?_
    rw [Draft.calls_outcome, List.mem_range'_1]
    exact ⟨own, started.trans_eq List.length_append⟩
  | array items =>
    obtain ⟨visits, visited⟩ := Walk.visited_run engine scope distinct journal
    exact visited.isObserved distinct arrived own started
  | object fields =>
    obtain ⟨visits, visited⟩ := Walk.visited_run engine scope distinct journal
    exact visited.isObserved distinct arrived own started
  | null => exact absurd started (Nat.not_lt.mpr own)
  | bool b => exact absurd started (Nat.not_lt.mpr own)
  | number x => exact absurd started (Nat.not_lt.mpr own)

theorem isObserved_of_isSettled (engine : Engine) (host : HostState) (tier : Tier)
    (statics : Option Environment) (journal : Journal) {entries : List (Option String × Value)}
    (arranged : Arranged entries) (distinct : ∀ entry ∈ entries, entry.2.Distinct) {later : Calls}
    (settled : (buildEntries engine host tier statics journal entries).1.isSettled later = true)
    {id : CallId} (own : journal.calls.length ≤ id)
    (started : id < (buildEntries engine host tier statics journal entries).2.calls.length) :
    later.isObserved id = true := by
  induction entries using List.reverseRecOn with
  | nil => exact absurd started (Nat.not_lt.mpr own)
  | append_singleton entries entry ih =>
    have before := arranged.sublist (List.sublist_append_left entries [entry])
    have last : entry.2.Distinct := distinct entry (by simp)
    have flying (d : Deferred Value) := value?_evaluateEntry engine
      (entryScope host statics (buildEntries engine host tier statics journal entries).1) last
      (buildEntries engine host tier statics journal entries).2 (d := d)
    rw [buildEntries_concat] at settled started
    simp only [isSettled, entries_add (arranged.appends engine host tier statics journal),
      List.all_append, List.all_cons, List.all_nil, Bool.and_true, Bool.and_eq_true,
      ofOutcome_eq_node flying, Outcome.isSettled_node] at settled
    by_cases old : id < (buildEntries engine host tier statics journal entries).2.calls.length
    · exact ih before (fun other member => distinct other (List.mem_append_left _ member))
        settled.1 old
    · exact isObserved_of_arrived engine _ last _ settled.2 (Nat.le_of_not_lt old) started

end Environment

/-- Every failing expression of a tree is reported once and nothing else is, with the source that
stands between the delimiters. What fails at once is reported in document order; a rejection is
reported when its call is observed, whoever observes it and however often. It is the same for the
variables of a tier, whose sources may also be whole strings. -/
theorem Engine.failures_reported_once (engine : Engine) (start : Journal) :
    (∀ (scope : Scope) (tree : Value),
      let walked := Walk.run engine scope tree start
      let occurrences := Walk.occurrencesOf engine scope tree start
      occurrences.map Occurrence.source = tree.embeddedSources ∧
      walked.2.calls = start.calls ++ occurrences.flatMap Occurrence.started ∧
      walked.2.events = start.events ++ occurrences.flatMap Occurrence.reported ∧
      ∀ turns more : List Turn,
        let state := Turn.takeAll turns walked
        state.2.Faithful (Turn.takeAll (turns ++ more) walked).2 ∧
          start.Accounts occurrences state.2 ∧
          (state.1.isDone = true → start.Settles occurrences state.2)) ∧
    (∀ (host : HostState) (tier : Tier) (statics : Option Environment)
        (globals locals : Option Declaration),
      let built := Environment.build engine host tier statics globals locals start
      let occurrences := Environment.occurrencesOf engine host tier statics globals locals start
      occurrences.map Occurrence.source =
        (Environment.order (Merged.merge globals locals)).flatMap (fun entry =>
          entry.2.declaredSources) ∧
      built.2.calls = start.calls ++ occurrences.flatMap Occurrence.started ∧
      built.2.events = start.events ++ occurrences.flatMap Occurrence.reported ∧
      ∀ now later : Journal, built.2.Evolves now → now.Evolves later →
        now.Faithful later ∧ start.Accounts occurrences now ∧
          ((∀ d ∈ globals, d.Distinct) → (∀ d ∈ locals, d.Distinct) →
            built.1.isSettled now.calls = true → start.Settles occurrences now)) ∧
    ∀ mode template source, source ∈ Template.sourcesIn mode template →
      Template.Encloses template source ∨
        mode = .declaration ∧ Template.classify template = .plain ∧ source = template := by
  refine ⟨?_, ?_, ?_⟩
  · intro scope tree walked occurrences
    have entered : walked.2 = start.enterAll occurrences := Walk.journal_run engine scope tree start
    refine ⟨Walk.map_source_occurrencesOf engine scope tree start, congrArg Journal.calls entered,
      congrArg Journal.events entered, fun turns more => ?_⟩
    intro state
    have evolves : walked.2.Evolves state.2 := Turn.evolves_takeAll turns walked
    refine ⟨?_, ?_, fun done id own started => ?_⟩
    · rw [Turn.takeAll_append]
      exact (Turn.evolves_takeAll more state).faithful
    · rw [entered] at evolves
      exact evolves.faithful.accounts
    · rw [← entered] at started
      exact ((Walk.tracks_run engine scope tree start).takeAll turns).isObserved done own started
  · intro host tier statics globals locals built occurrences
    have entered : built.2 = start.enterAll occurrences :=
      Environment.journal_build engine host statics tier globals locals start
    refine ⟨Environment.map_source_occurrencesOf engine host statics tier globals locals start,
      congrArg Journal.calls entered, congrArg Journal.events entered,
      fun now later evolves onward => ⟨onward.faithful, ?_, ?_⟩⟩
    · rw [entered] at evolves
      exact evolves.faithful.accounts
    · intro distinctGlobals distinctLocals settled id own started
      rw [← entered] at started
      exact Environment.isObserved_of_isSettled engine host tier statics start
        (Environment.arranged_order _ (Merged.distinct_merge globals locals))
        (Environment.distinct_order distinctGlobals distinctLocals) settled own started
  · exact fun mode template source => Template.encloses_or_whole

/-- The call of `later` is rejected, and its rejection is reported once, though the walk and somebody
else look at the call. -/
theorem Engine.failures_reported_once_later :
    let tree := Value.object [("lamp", .text "<$ later('lamp') $>")]
    let walked := Walk.run { registry := Expr.gated } { host := {} } tree {}
    let state := Turn.takeAll [.rejectWaiting "offline", .observe 0, .poll, .observe 0] walked
    state.1.isDone = true ∧
      state.2.events = [.expressionFailed "later('lamp')" (.host "offline")] := by
  intro tree walked state
  have walked_eq : walked = _ := Walk.run_later { host := {} }
  have calls : state.2.calls = [⟨some "later('lamp')", .observed (.error "offline")⟩] := by
    simp only [state, walked_eq]
    rfl
  have done : state.1.isDone = true := by
    simp only [state, walked_eq]
    rfl
  obtain ⟨each, -, -⟩ := Engine.failures_reported_once { registry := Expr.gated } {}
  obtain ⟨sources, started, reported, moments⟩ := each { host := {} } tree
  obtain ⟨-, accounts, -⟩ :=
    moments [.rejectWaiting "offline", .observe 0, .poll, .observe 0] []
  have only : tree.embeddedSources = ["later('lamp')"] := by
    simp [tree, Value.embeddedSources, Value.strings, Value.fieldStrings, Template.sourcesIn,
      Walk.classify_later, Template.sources]
  generalize Walk.occurrencesOf _ _ tree {} = occurrences at sources started reported accounts
  rw [only] at sources
  obtain ⟨⟨source, result⟩, rfl, rfl⟩ := List.map_eq_singleton_iff.mp sources
  rw [show Walk.run { registry := Expr.gated } { host := {} } tree {} = _ from walked_eq] at started
  obtain ⟨reply, rfl⟩ : ∃ reply, result = .ok (.call reply) := by
    cases result with
    | error failure => cases started
    | ok evaluated =>
      cases evaluated with
      | value v => cases started
      | call reply => exact ⟨reply, rfl⟩
  have report := accounts.alone fun id other => by
    show state.2.calls.result? id = none
    have beyond : 1 ≤ id := other.resolve_left (Nat.not_lt_zero id)
    rw [calls]
    exact Calls.result?_eq_none_of_length_le beyond
  change state.2.events.Perm (Occurrence.reports state.2.calls 0 _) at report
  rw [calls] at report
  exact ⟨done, List.perm_singleton.mp report⟩

end LiveConfig
