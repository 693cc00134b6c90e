import LiveConfig.Proofs.Lifecycle.Snapshot
import LiveConfig.Proofs.Rewriting.Resolving

set_option autoImplicit false

namespace LiveConfig

theorem Walk.Visited.own_outcome {engine : Engine} {scope : Scope} {tree : Value} {start : Journal}
    {visits : Visits} {state : Walk × Journal}
    (visited : Visited engine scope tree start (tree.strings []) visits state) :
    ∀ id ∈ (state.1.outcome state.2.calls).calls,
      start.calls.length ≤ id ∧ id < state.2.calls.length := by
  intro id called
  rw [outcome] at called
  split at called
  · cases called
  · have waited : id ∈ state.1.tree.calls := called
    rw [Partial.calls_eq_flatMap, visited.settling.tree_eq, Value.flying_graft] at waited
    obtain ⟨d, flies, inside⟩ := List.mem_flatMap.mp waited
    obtain ⟨leaf, -, flies⟩ := List.mem_flatMap.mp flies
    have found := (Results.mem_flying_current.mp flies).1
    exact visited.own _ (Results.mem_of_lookup found) id inside

namespace Environment

theorem own_evaluateEntry (engine : Engine) (scope : Scope) {value : Value}
    (distinct : value.Distinct) (journal : Journal) :
    ∀ id ∈ (evaluateEntry engine scope value journal).1.calls,
      journal.calls.length ≤ id ∧
        id < (evaluateEntry engine scope value journal).2.calls.length := by
  intro id called
  cases value with
  | text template =>
    rw [evaluateEntry, engine.evaluateTemplate_eq] at called ⊢
    rw [Draft.calls_outcome, List.mem_range'_1] at called
    exact ⟨called.1, called.2.trans_eq List.length_append.symm⟩
  | array items =>
    obtain ⟨visits, visited⟩ := Walk.visited_run engine scope distinct journal
    exact visited.own_outcome id called
  | object fields =>
    obtain ⟨visits, visited⟩ := Walk.visited_run engine scope distinct journal
    exact visited.own_outcome id called
  | null | bool | number => cases called

/-- Variables as they were built, beside what they come to when the calls stand as given. -/
structure Settles (calls : Calls) (eager settled : Environment) : Prop where
  tier_eq : settled.tier = eager.tier
  positional : settled.positional.length = eager.positional.length
  names : Fields.names settled.named = Fields.names eager.named
  ready : ∀ (k : Nat) (v : Value), eager.entries[k]? = some (.ready v) →
    settled.entries[k]? = some (.ready v)
  pending : ∀ (k : Nat) (d : Deferred Value), eager.entries[k]? = some (.pending d) →
    ∃ v, d.value? calls = some v ∧ settled.entries[k]? = some (.ready v)
  isSettled : eager.isSettled calls = true
  resolve_eq : eager.resolve calls = settled
  /-- The object of all variables does not change any more. -/
  view_eq : ∀ calls', settled.view calls' = eager.view calls

/-- The entries of built variables are ready or wait for calls. -/
def Plain (env : Environment) : Prop :=
  ∃ outcomes : List (Outcome Value), env.entries = outcomes.map Outcome.node ∧
    ∀ outcome ∈ outcomes, outcome.isPending = true → outcome.calls ≠ []

section

variable {env : Environment} (plain : env.Plain)
include plain

theorem Plain.entry {entry : Partial} (member : entry ∈ env.entries) :
    (∃ v, entry = .ready v) ∨ ∃ d, entry = .pending d ∧ d.calls ≠ [] := by
  obtain ⟨outcomes, nodes, waits⟩ := plain
  rw [nodes] at member
  obtain ⟨outcome, listed, rfl⟩ := List.mem_map.mp member
  cases outcome with
  | ready v => exact .inl ⟨v, rfl⟩
  | pending d => exact .inr ⟨d, rfl, waits _ listed rfl⟩

theorem Plain.arrived {calls : Calls} (observed : calls.allObserved env.calls = true)
    {entry : Partial} (member : entry ∈ env.entries) :
    (∃ v, entry = .ready v) ∨
      ∃ d, entry = .pending d ∧ d.value? calls = some (d.read calls.answers) := by
  have settled := List.all_eq_true.mp (isSettled_of_allObserved observed) entry member
  rcases plain.entry member with ⟨v, rfl⟩ | ⟨d, rfl, -⟩
  · exact .inl ⟨v, rfl⟩
  · exact .inr ⟨d, rfl, if_pos settled⟩

theorem Plain.resolve_eq {calls : Calls} {settled : Environment}
    (there : env.outcome.value? calls = some settled) : env.resolve calls = settled := by
  obtain ⟨observed, rfl⟩ := Outcome.value?_eq_some_iff.mp there
  rw [calls_outcome] at observed
  rw [outcome]
  split
  · next idle =>
    refine (env.mapEntries_congr _ id fun entry member => ?_).trans env.mapEntries_id
    rcases plain.entry member with ⟨v, rfl⟩ | ⟨d, rfl, busy⟩
    · rfl
    · exact absurd (calls_of_mem_entries (List.isEmpty_iff.mp idle) member) busy
  · refine env.mapEntries_congr _ _ fun entry member => ?_
    rcases plain.arrived observed member with ⟨v, rfl⟩ | ⟨d, rfl, found⟩
    · rfl
    · rw [Partial.resolve, Partial.ofDeferred, found]
      rfl

theorem Plain.settles {calls : Calls} {settled : Environment}
    (there : env.outcome.value? calls = some settled) : env.Settles calls settled := by
  have observed := (Outcome.value?_eq_some_iff.mp there).1
  rw [calls_outcome] at observed
  obtain rfl := plain.resolve_eq there
  have entries (k : Nat) : (env.resolve calls).entries[k]? =
      env.entries[k]?.map (Partial.resolve calls) := by
    rw [resolve, entries_mapEntries, List.getElem?_map]
  refine ⟨rfl, List.length_map _, Fields.names_mapValues _ _, ?_, ?_,
    isSettled_of_allObserved observed, rfl, ?_⟩
  · intro k v here
    rw [entries, here]
    rfl
  · intro k d here
    rcases plain.arrived observed (List.mem_of_getElem? here) with ⟨v, same⟩ | ⟨e, same, found⟩
    · cases same
    · obtain rfl := Partial.pending.inj same
      refine ⟨_, found, ?_⟩
      rw [entries, here, Option.map_some, Partial.resolve, Partial.ofDeferred, found]
  · intro calls'
    refine env.view_mapEntries _ _ _ fun entry member => ?_
    rcases plain.arrived observed member with ⟨v, rfl⟩ | ⟨d, rfl, found⟩
    · rfl
    · rw [Partial.resolve, Partial.ofDeferred, found, Partial.toValue, Partial.toValue, found]
      rfl

end

theorem isSome_value?_poll_iff (env : Environment) (journal : Journal) :
    (env.outcome.value? (journal.poll env.calls).calls).isSome = true ↔
      ∀ id ∈ env.calls, journal.calls.isFinished id = true := by
  rw [Outcome.isSome_value?, calls_outcome, journal.allObserved_poll, List.all_eq_true]

end Environment

/-- The entries of a tier in the order of their evaluation, each with what it came to and with the
calls that it waits for, which are its own. -/
theorem Environment.exists_moments (engine : Engine) (host : HostState) (tier : Tier)
    (statics : Option Environment) {globals locals : Option Declaration} (journal : Journal)
    (distinctGlobals : ∀ d ∈ globals, d.Distinct) (distinctLocals : ∀ d ∈ locals, d.Distinct) :
    let order := order (Merged.merge globals locals)
    let built := build engine host tier statics globals locals journal
    built.1.Plain ∧ built.1.entries.length = order.length ∧
      ∃ moments : Nat → Journal, moments 0 = journal ∧ moments order.length = built.2 ∧
        ∀ k entry, order[k]? = some entry → ∃ outcome : Outcome Value,
          built.1.entries[k]? = some outcome.node ∧
          evaluateEntry engine (entryScope host statics (built.1.upTo k)) entry.2 (moments k) =
            (outcome, moments (k + 1)) ∧
          ∀ id ∈ outcome.calls,
            (moments k).calls.length ≤ id ∧ id < (moments (k + 1)).calls.length := by
  intro order built
  have arranged := arranged_order _ (Merged.distinct_merge globals locals)
  have values := distinct_order distinctGlobals distinctLocals
  obtain ⟨outcomes, count, nodes, waits, evaluated⟩ :=
    exists_outcomes engine host tier statics journal arranged values
  have entries : built.1.entries = outcomes.map Outcome.node := nodes
  refine ⟨⟨outcomes, nodes, waits⟩, by rw [entries, List.length_map, count],
    fun k => (buildEntries engine host tier statics journal (order.take k)).2, rfl, ?_, ?_⟩
  · dsimp only
    rw [List.take_length]
    rfl
  · intro k entry found
    obtain ⟨outcome, listed, evaluation⟩ := evaluated k entry found
    have upTo : built.1.upTo k =
        (buildEntries engine host tier statics journal (order.take k)).1 :=
      upTo_buildEntries engine host tier statics journal arranged k
    have own := own_evaluateEntry engine (entryScope host statics (built.1.upTo k))
      (values entry (List.mem_of_getElem? found))
      (buildEntries engine host tier statics journal (order.take k)).2
    rw [← upTo] at evaluation
    rw [evaluation] at own
    exact ⟨outcome, by rw [entries, List.getElem?_map, listed]; rfl, evaluation, own⟩

/-- What is seen early of work under way becomes what the work comes to, in whichever order its
calls finish. A copy of the tree of a walk, from any moment, keeps its containers, its names and its
ready leaves, and once the walk is done it is settled, with the value and the tree of the walk. The
variables of a tier come to variables of the same tier with the same places and names: what was
ready is unchanged, and what was under way has the value of the calls that it started itself. -/
theorem Engine.early_views_converge (engine : Engine) (journal : Journal) :
    (∀ (scope : Scope) (tree : Value), tree.Distinct → ∀ turns more : List Turn,
      let walked := Walk.run engine scope tree journal
      let copy := (Turn.takeAll turns walked).1.tree
      let state := Turn.takeAll (turns ++ more) walked
      Walk.EarlyCopy copy state ∧
        (state.1.isDone = true → (walked.1.outcome walked.2.calls).value? state.2.calls =
          some (copy.toValue state.2.calls))) ∧
    ∀ (host : HostState) (tier : Tier) (statics : Option Environment)
      (globals locals : Option Declaration), (∀ d ∈ globals, d.Distinct) →
      (∀ d ∈ locals, d.Distinct) →
      let order := Environment.order (Merged.merge globals locals)
      let built := Environment.build engine host tier statics globals locals journal
      (built.1.entries.length = order.length ∧
        ∃ moments : Nat → Journal, moments 0 = journal ∧ moments order.length = built.2 ∧
          ∀ k entry, order[k]? = some entry → ∃ outcome : Outcome Value,
            built.1.entries[k]? = some outcome.node ∧
            Environment.evaluateEntry engine
              (Environment.entryScope host statics (built.1.upTo k)) entry.2 (moments k) =
                (outcome, moments (k + 1)) ∧
            ∀ id ∈ outcome.calls,
              (moments k).calls.length ≤ id ∧ id < (moments (k + 1)).calls.length) ∧
      ∀ later : Journal,
        ((built.1.outcome.value? (later.poll built.1.calls).calls).isSome = true ↔
          ∀ id ∈ built.1.calls, later.calls.isFinished id = true) ∧
        ∀ settled, built.1.outcome.value? later.calls = some settled →
          built.1.Settles later.calls settled := by
  constructor
  · intro scope tree distinct turns more walked copy state
    have copied := Walk.earlyCopy_run engine scope distinct journal turns more
    refine ⟨copied, fun done => ?_⟩
    rw [copied.toValue_eq]
    exact Walk.value?_outcome_of_isDone (Walk.earlyCopy_run engine scope distinct journal [] [])
      (Walk.earlyCopy_run engine scope distinct journal [] (turns ++ more)) done
  · intro host tier statics globals locals distinctGlobals distinctLocals order built
    obtain ⟨plain, moments⟩ := Environment.exists_moments engine host tier statics journal
      distinctGlobals distinctLocals
    exact ⟨moments, fun later => ⟨built.1.isSome_value?_poll_iff later,
      fun settled there => plain.settles there⟩⟩

/-- The call of `lamp` is under way in the tree and in the variables. Both read as null there until
its gate is released and it is taken up. -/
theorem early_views_of_lamp :
    let engine : Engine := { registry := Expr.gated }
    let tree := Value.object [("lamp", .text "<$ later('lamp') $>")]
    let walked := Walk.run engine { host := {} } tree {}
    let state := Turn.takeAll [.release "gate" (.ok (.text "on")), .poll] walked
    let locals :=
      some (Declaration.named [("lamp", .text "<$ later('lamp') $>"), ("room", .bool true)])
    let built := Environment.build engine {} .dynamic none none locals {}
    let later := built.2.release "gate" (.ok (.text "on"))
    tree.Distinct ∧ (∀ d ∈ locals, d.Distinct) ∧
      walked.1.tree.toValue walked.2.calls = .object [("lamp", .null)] ∧ state.1.isDone = true ∧
      walked.1.tree.toValue state.2.calls = .object [("lamp", .text "on")] ∧
      walked.1.tree.resolve state.2.calls = .object [("lamp", .ready (.text "on"))] ∧
      built.1.outcome.isPending = true ∧
      ∃ settled, built.1.outcome.value? (later.poll built.1.calls).calls = some settled ∧
        settled.tier = .dynamic ∧ Fields.names settled.named = ["lamp", "room"] ∧
        settled.entries[0]? = some (.ready (.text "on")) ∧
        settled.entries[1]? = some (.ready (.bool true)) := by
  intro engine tree walked state locals built later
  have walked_eq : walked = _ := Walk.run_later { host := {} }
  have distinctLocals : ∀ d ∈ locals, d.Distinct := by
    intro d held
    rw [← Option.some.inj held]
    refine .named (by simp [Fields.Distinct, Fields.names]) ?_
    simp only [List.forall_mem_cons]
    exact ⟨.text _, .bool _, List.forall_mem_nil _⟩
  have built_eq : built = ({
      tier := .dynamic
      named := [("lamp", .pending ((Deferred.ofCall 0).map (Engine.orFallback .null))),
        ("room", .ready (.bool true))] },
      { calls := [⟨some "later('lamp')", .waiting "gate"⟩] }) := by
    have order : Environment.order (Merged.merge none locals) =
        [(some "lamp", .text "<$ later('lamp') $>"), (some "room", .bool true)] := rfl
    simp only [built, Environment.build, order, List.foldl, Environment.extend_eq,
      Environment.evaluateEntry, engine, Walk.evaluateTemplate_later]
    rfl
  have answered : (later.poll built.1.calls).calls =
      [⟨some "later('lamp')", .observed (.ok (.text "on"))⟩] := by
    simp only [later, built_eq]
    rfl
  have finished : ∀ id ∈ built.1.calls, later.calls.isFinished id = true := by
    simp only [later, built_eq]
    exact List.forall_mem_singleton.mpr rfl
  have done : state.1.isDone = true := by
    simp only [state, walked_eq]
    rfl
  have tree_eq : state.1.tree = .object [("lamp", .ready (.text "on"))] := by
    simp only [state, walked_eq]
    rfl
  obtain ⟨walks, builds⟩ := engine.early_views_converge {}
  obtain ⟨copied, -⟩ := walks { host := {} } tree Walk.distinct_later []
    [.release "gate" (.ok (.text "on")), .poll]
  obtain ⟨-, settles⟩ :=
    builds {} .dynamic none none locals (by rintro _ ⟨⟩) distinctLocals
  obtain ⟨settled, there⟩ := Option.isSome_iff_exists.mp ((settles later).1.mpr finished)
  have settling := (settles (later.poll built.1.calls)).2 settled there
  have entries : built.1.entries =
      [.pending ((Deferred.ofCall 0).map (Engine.orFallback .null)), .ready (.bool true)] := by
    rw [built_eq]
    rfl
  obtain ⟨v, value, first⟩ := settling.pending 0 _ (congrArg (·[0]?) entries)
  have second := settling.ready 1 (.bool true) (congrArg (·[1]?) entries)
  have on : v = .text "on" := by
    change Deferred.value? (later.poll built.1.calls).calls _ = some v at value
    rw [answered] at value
    exact (Option.some.inj value).symm
  have tier : built.1.tier = .dynamic := by rw [built_eq]
  have names : Fields.names built.1.named = ["lamp", "room"] := by
    rw [built_eq]
    rfl
  have waits : built.1.outcome.isPending = true := by
    rw [built_eq]
    rfl
  have unknown : walked.1.tree.toValue walked.2.calls = .object [("lamp", .null)] := by
    rw [walked_eq]
    rfl
  have known : state.1.tree.toValue state.2.calls = .object [("lamp", .text "on")] := by
    rw [tree_eq]
    rfl
  exact ⟨Walk.distinct_later, distinctLocals, unknown, done, copied.toValue_eq.trans known,
    (copied.settled done).2.1.trans tree_eq, waits, settled, there, settling.tier_eq.trans tier,
    settling.names.trans names, on ▸ first, second⟩

end LiveConfig
