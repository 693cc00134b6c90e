import LiveConfig.Proofs.Rewriting.Asynchrony
import LiveConfig.Proofs.Rewriting.Forecast
import LiveConfig.Proofs.Variables.Merging

set_option autoImplicit false

namespace LiveConfig

theorem Walk.value?_outcome_run (engine : Engine) (scope : Scope) {tree : Value}
    (distinct : tree.Distinct) (journal : Journal) {d : Deferred Value}
    (pending : (engine.evaluateStructure scope tree journal).1 = .pending d) :
    d.value? (engine.evaluateStructure scope tree journal).2.calls = none := by
  obtain ⟨visits, visited⟩ := visited_run engine scope distinct journal
  have paths := visited.paths_results
  have settling := visited.settling
  have flying := visited.journal_eq
  have awaited := visited.awaited_eq
  have tree_eq := visited.tree_eq
  simp only [Engine.evaluateStructure] at pending ⊢
  generalize run engine scope tree journal = state at *
  unfold outcome at pending
  split at pending
  · cases pending
  · next busy =>
    obtain rfl : state.1.tree.deferred = d := Outcome.pending.inj pending
    cases arrived : state.1.tree.deferred.value? state.2.calls with
    | none => rfl
    | some value =>
      rw [tree_eq] at arrived
      obtain ⟨all, _⟩ := (settling.value?_deferred_eq_some_iff distinct paths).mp arrived
      refine absurd ?_ busy
      rw [isDone, List.isEmpty_iff, awaited]
      apply List.eq_nil_iff_forall_not_mem.mpr
      rintro ⟨path, e⟩ member
      have listed := Results.mem_awaited.mp member
      have place : path ∈ (tree.strings []).map Prod.fst :=
        paths ▸ List.mem_map_of_mem listed
      obtain ⟨leaf, inside, rfl⟩ := List.mem_map.mp place
      have there := all leaf inside
      rw [Results.result, Results.lookup_of_mem (nodup_results distinct paths) listed,
        Option.getD_some, flying, Outcome.value?, Visits.value?_of_mem_results listed] at there
      cases there

namespace Environment

theorem value?_evaluateEntry (engine : Engine) (scope : Scope) {value : Value}
    (distinct : value.Distinct) (journal : Journal) {d : Deferred Value}
    (pending : (evaluateEntry engine scope value journal).1 = .pending d) :
    d.value? (evaluateEntry engine scope value journal).2.calls = none := by
  cases value with
  | text template =>
    rw [evaluateEntry, engine.evaluateTemplate_eq] at pending ⊢
    exact Draft.value?_enter _ journal pending
  | array items => exact Walk.value?_outcome_run engine scope distinct journal pending
  | object fields => exact Walk.value?_outcome_run engine scope distinct journal pending
  | null | bool | number => cases pending

theorem calls_ne_nil_of_isPending (engine : Engine) (scope : Scope) {value : Value}
    (distinct : value.Distinct) (journal : Journal)
    (pending : (evaluateEntry engine scope value journal).1.isPending = true) :
    (evaluateEntry engine scope value journal).1.calls ≠ [] := by
  have missing (d : Deferred Value) := value?_evaluateEntry engine scope distinct journal (d := d)
  generalize evaluateEntry engine scope value journal = evaluated at pending missing
  obtain ⟨outcome, later⟩ := evaluated
  cases outcome with
  | ready v => cases pending
  | pending d =>
    intro idle
    have calls : d.calls = [] := idle
    have none := missing d rfl
    rw [Deferred.value?, Deferred.isSettled, calls] at none
    cases none

/-- The first entries, those without names counted first. -/
def upTo (k : Nat) (env : Environment) : Environment where
  tier := env.tier
  positional := env.positional.take k
  named := env.named.take (k - env.positional.length)

/-- Adds an entry under a name, or without one. -/
def add (env : Environment) (name : Option String) (entry : Partial) : Environment :=
  match name with
  | none => env.push entry
  | some name => env.insert name entry

/-- The entry goes to the end: it has a new name, or none has a name yet. -/
def Appends (env : Environment) (name : Option String) : Prop :=
  match name with
  | none => env.named = []
  | some name => name ∉ Fields.names env.named

theorem entries_add {env : Environment} {name : Option String} (appends : env.Appends name)
    (entry : Partial) : (env.add name entry).entries = env.entries ++ [entry] := by
  cases name with
  | none =>
    have unnamed : env.named = [] := appends
    simp [add, push, entries, unnamed]
  | some name => simp [add, insert, entries, Fields.put_of_notMem appends]

theorem size_add {env : Environment} {name : Option String} (appends : env.Appends name)
    (entry : Partial) : (env.add name entry).size = env.size + 1 := by
  have size_eq (env : Environment) : env.size = env.entries.length := by
    simp [size, entries]
  rw [size_eq, entries_add appends, List.length_append, size_eq]
  rfl

theorem upTo_add {env : Environment} {name : Option String} (appends : env.Appends name)
    (entry : Partial) {k : Nat} (within : k ≤ env.size) :
    (env.add name entry).upTo k = env.upTo k := by
  unfold size at within
  cases name with
  | none =>
    have unnamed : env.named = [] := appends
    rw [unnamed, List.length_nil, Nat.add_zero] at within
    simp [add, push, upTo, unnamed, List.take_append_of_le_length within]
  | some name =>
    have rest : k - env.positional.length ≤ env.named.length := by omega
    simp [add, insert, upTo, Fields.put_of_notMem appends, List.take_append_of_le_length rest]

theorem upTo_of_size_le {env : Environment} {k : Nat} (whole : env.size ≤ k) : env.upTo k = env := by
  unfold size at whole
  have positional : env.positional.take k = env.positional := List.take_of_length_le (by omega)
  have named : env.named.take (k - env.positional.length) = env.named :=
    List.take_of_length_le (by omega)
  rw [upTo, positional, named]

theorem extend_eq (engine : Engine) (host : HostState) (statics : Option Environment)
    (soFar : Environment) (journal : Journal) (entry : Option String × Value) :
    let evaluated := evaluateEntry engine (entryScope host statics soFar) entry.2 journal
    extend engine host statics (soFar, journal) entry =
      (soFar.add entry.1 (.ofOutcome evaluated.2.calls evaluated.1), evaluated.2) := by
  obtain ⟨name, value⟩ := entry
  cases name <;> rfl

/-- Entries without names come first, and no name comes twice. -/
structure Arranged (entries : List (Option String × Value)) : Prop where
  positional : entries.Pairwise fun earlier later => later.1 = none → earlier.1 = none
  distinct : (entries.filterMap Prod.fst).Nodup

theorem arranged_order (merged : Merged) (distinct : Fields.Distinct merged.named) :
    Arranged (order merged) where
  positional := by
    refine List.pairwise_append.mpr ⟨?_, ?_, ?_⟩
    · exact List.pairwise_map.mpr (List.pairwise_of_forall fun _ _ _ => rfl)
    · exact List.pairwise_map.mpr (List.pairwise_of_forall fun _ _ missing => nomatch missing)
    · intro earlier first later last missing
      obtain ⟨_, _, rfl⟩ := List.mem_map.mp last
      cases missing
  distinct := by
    have unnamed : (merged.positional.map fun value => ((none : Option String), value)).filterMap
        Prod.fst = [] := by
      simp [List.filterMap_map]
    have named : (merged.named.map fun field => (some field.1, field.2)).filterMap Prod.fst =
        Fields.names merged.named := by
      simp [List.filterMap_map, Fields.names]
    rw [order, List.filterMap_append, unnamed, List.nil_append]
    exact named ▸ distinct

theorem distinct_order {globals locals : Option Declaration}
    (distinctGlobals : ∀ d ∈ globals, d.Distinct) (distinctLocals : ∀ d ∈ locals, d.Distinct) :
    ∀ entry ∈ order (Merged.merge globals locals), entry.2.Distinct := by
  obtain ⟨positional, named⟩ := Merged.distinct_values_merge distinctGlobals distinctLocals
  intro entry member
  rcases List.mem_append.mp member with first | last
  · obtain ⟨value, listed, rfl⟩ := List.mem_map.mp first
    exact positional value listed
  · obtain ⟨field, listed, rfl⟩ := List.mem_map.mp last
    exact named field listed

theorem Arranged.sublist {entries whole : List (Option String × Value)} (arranged : Arranged whole)
    (part : entries.Sublist whole) : Arranged entries where
  positional := arranged.positional.sublist part
  distinct := arranged.distinct.sublist (part.filterMap _)

/-- The variables and the journal after some entries. -/
def buildEntries (engine : Engine) (host : HostState) (tier : Tier) (statics : Option Environment)
    (journal : Journal) (entries : List (Option String × Value)) : Environment × Journal :=
  entries.foldl (extend engine host statics) ({ tier }, journal)

section

variable (engine : Engine) (host : HostState) (tier : Tier) (statics : Option Environment)
  (journal : Journal) {entries : List (Option String × Value)}

theorem buildEntries_concat (entries : List (Option String × Value))
    (entry : Option String × Value) :
    let soFar := buildEntries engine host tier statics journal entries
    let evaluated := evaluateEntry engine (entryScope host statics soFar.1) entry.2 soFar.2
    buildEntries engine host tier statics journal (entries ++ [entry]) =
      (soFar.1.add entry.1 (.ofOutcome evaluated.2.calls evaluated.1), evaluated.2) := by
  intro soFar evaluated
  rw [buildEntries, List.foldl_append]
  exact extend_eq engine host statics soFar.1 soFar.2 entry

theorem tier_buildEntries : (buildEntries engine host tier statics journal entries).1.tier = tier := by
  induction entries using List.reverseRecOn with
  | nil => rfl
  | append_singleton entries entry ih =>
    rw [buildEntries_concat]
    obtain ⟨name, value⟩ := entry
    cases name <;> exact ih

theorem shape_buildEntries (arranged : Arranged entries) :
    let built := (buildEntries engine host tier statics journal entries).1
    built.positional.length = entries.countP (·.1.isNone) ∧
      Fields.names built.named = entries.filterMap Prod.fst := by
  induction entries using List.reverseRecOn with
  | nil => exact ⟨rfl, rfl⟩
  | append_singleton entries entry ih =>
    obtain ⟨length, names⟩ := ih (arranged.sublist (List.sublist_append_left _ _))
    rw [buildEntries_concat]
    obtain ⟨name, value⟩ := entry
    cases name with
    | none => simp [add, push, length, names]
    | some name =>
      have fresh : name ∉ entries.filterMap Prod.fst := by
        have distinct := arranged.distinct
        rw [List.filterMap_append, List.nodup_append] at distinct
        intro member
        exact distinct.2.2 name member name (by simp) rfl
      rw [← names] at fresh
      simp [add, insert, length, ← names, Fields.names_put, fresh]

theorem find?_buildEntries_eq_none_iff (arranged : Arranged entries) (name : String) :
    (buildEntries engine host tier statics journal entries).1.find? name = none ↔
      name ∉ entries.filterMap Prod.fst := by
  rw [← (shape_buildEntries engine host tier statics journal arranged).2]
  exact Fields.find?_eq_none_iff name _

theorem find?_buildEntries_append {name : String} {after : List (Option String × Value)}
    (fresh : name ∉ after.filterMap Prod.fst) :
    (buildEntries engine host tier statics journal (entries ++ after)).1.find? name =
      (buildEntries engine host tier statics journal entries).1.find? name := by
  induction after using List.reverseRecOn with
  | nil => rw [List.append_nil]
  | append_singleton after entry ih =>
    rw [List.filterMap_append, List.mem_append, not_or] at fresh
    rw [← ih fresh.1, ← List.append_assoc, buildEntries_concat]
    obtain ⟨key, value⟩ := entry
    cases key with
    | none => rfl
    | some key =>
      have differ : name ≠ key := by
        rintro rfl
        exact fresh.2 (by simp)
      exact Fields.find?_put_other _ _ _ _ differ

theorem entered_buildEntries (after : List (Option String × Value)) :
    (buildEntries engine host tier statics journal entries).2.Entered
      (buildEntries engine host tier statics journal (entries ++ after)).2 := by
  have entered := entered_foldl engine host statics after
    (buildEntries engine host tier statics journal entries)
  rw [buildEntries, ← List.foldl_append] at entered
  exact entered

theorem Arranged.appends {entry : Option String × Value} (arranged : Arranged (entries ++ [entry])) :
    (buildEntries engine host tier statics journal entries).1.Appends entry.1 := by
  have names := (shape_buildEntries engine host tier statics journal
    (arranged.sublist (List.sublist_append_left entries [entry]))).2
  obtain ⟨name, value⟩ := entry
  cases name with
  | none =>
    have unnamed : entries.filterMap Prod.fst = [] := by
      refine List.filterMap_eq_nil_iff.mpr fun earlier member => ?_
      exact (List.pairwise_append.mp arranged.positional).2.2 earlier member _
        (List.mem_singleton_self _) rfl
    rw [unnamed, Fields.names, List.map_eq_nil_iff] at names
    exact names
  | some name =>
    have distinct := arranged.distinct
    rw [List.filterMap_append, List.nodup_append] at distinct
    show name ∉ Fields.names _
    rw [names]
    intro member
    exact distinct.2.2 name member name (by simp) rfl

theorem size_buildEntries (arranged : Arranged entries) :
    (buildEntries engine host tier statics journal entries).1.size = entries.length := by
  induction entries using List.reverseRecOn with
  | nil => rfl
  | append_singleton entries entry ih =>
    rw [buildEntries_concat, size_add (arranged.appends engine host tier statics journal),
      ih (arranged.sublist (List.sublist_append_left _ _)), List.length_append]
    rfl

theorem upTo_buildEntries (arranged : Arranged entries) (k : Nat) :
    (buildEntries engine host tier statics journal entries).1.upTo k =
      (buildEntries engine host tier statics journal (entries.take k)).1 := by
  induction entries using List.reverseRecOn with
  | nil =>
    rw [List.take_nil]
    exact upTo_of_size_le (Nat.zero_le k)
  | append_singleton entries entry ih =>
    have before := arranged.sublist (List.sublist_append_left entries [entry])
    by_cases within : k ≤ entries.length
    · rw [List.take_append_of_le_length within, ← ih before, buildEntries_concat]
      refine upTo_add (arranged.appends engine host tier statics journal) _ ?_
      rw [size_buildEntries engine host tier statics journal before]
      exact within
    · have whole : (entries ++ [entry]).length ≤ k := by
        rw [List.length_append, List.length_singleton]
        omega
      rw [List.take_of_length_le whole]
      apply upTo_of_size_le
      rw [size_buildEntries engine host tier statics journal arranged]
      exact whole

/-- What each entry comes to, evaluated after those before it. -/
theorem exists_outcomes (arranged : Arranged entries)
    (distinct : ∀ entry ∈ entries, entry.2.Distinct) :
    let after := buildEntries engine host tier statics journal
    ∃ outcomes : List (Outcome Value), outcomes.length = entries.length ∧
      (after entries).1.entries = outcomes.map Outcome.node ∧
      (∀ outcome ∈ outcomes, outcome.isPending = true → outcome.calls ≠ []) ∧
      ∀ k entry, entries[k]? = some entry → ∃ outcome, outcomes[k]? = some outcome ∧
        evaluateEntry engine (entryScope host statics (after (entries.take k)).1) entry.2
          (after (entries.take k)).2 = (outcome, (after (entries.take (k + 1))).2) := by
  intro after
  -- By induction from the end: an entry is evaluated when those before it are built.
  induction entries using List.reverseRecOn with
  | nil => exact ⟨[], rfl, rfl, nofun, nofun⟩
  | append_singleton entries entry ih =>
    obtain ⟨outcomes, length, nodes, waits, evaluated⟩ :=
      ih (arranged.sublist (List.sublist_append_left _ _))
        fun other member => distinct other (List.mem_append_left _ member)
    have last : entry.2.Distinct := distinct entry (by simp)
    have concat := buildEntries_concat engine host tier statics journal entries entry
    have flying (d : Deferred Value) := value?_evaluateEntry engine
      (entryScope host statics (after entries).1) last (after entries).2 (d := d)
    have busy := calls_ne_nil_of_isPending engine (entryScope host statics (after entries).1) last
      (after entries).2
    generalize evaluation : evaluateEntry engine (entryScope host statics (after entries).1) entry.2
      (after entries).2 = new at flying busy
    obtain ⟨outcome, later⟩ := new
    have whole : after (entries ++ [entry]) = ((after entries).1.add entry.1 outcome.node, later) := by
      rw [← ofOutcome_eq_node flying]
      simp only [evaluation, after] at concat ⊢
      exact concat
    refine ⟨outcomes ++ [outcome], by simp [length], ?_, ?_, ?_⟩
    · rw [whole, entries_add (arranged.appends engine host tier statics journal), nodes,
        List.map_append]
      rfl
    · intro other member
      rcases List.mem_append.mp member with earlier | new
      · exact waits other earlier
      · rw [List.mem_singleton.mp new]
        exact busy
    · intro k other found
      by_cases earlier : k < entries.length
      · rw [List.getElem?_append_left earlier] at found
        rw [List.take_append_of_le_length (by omega), List.take_append_of_le_length (by omega),
          List.getElem?_append_left (by omega)]
        exact evaluated k other found
      · have position : k = entries.length := by
          have inside := (List.getElem?_eq_some_iff.mp found).1
          rw [List.length_append, List.length_singleton] at inside
          omega
        subst position
        rw [List.getElem?_concat_length] at found
        obtain rfl := Option.some.inj found
        have all : (entries ++ [entry]).take (entries.length + 1) = entries ++ [entry] :=
          List.take_of_length_le (by simp)
        refine ⟨outcome, by rw [← length, List.getElem?_concat_length], ?_⟩
        rw [List.take_left', all, whole]
        · exact evaluation
        · rfl

end

theorem isPending_outcome_iff {env : Environment} {outcomes : List (Outcome Value)}
    (nodes : env.entries = outcomes.map Outcome.node)
    (waits : ∀ outcome ∈ outcomes, outcome.isPending = true → outcome.calls ≠ []) :
    env.outcome.isPending = true ↔ ∃ outcome ∈ outcomes, outcome.isPending = true := by
  have calls_eq : env.calls = outcomes.flatMap Outcome.calls := by
    rw [calls, nodes, List.flatMap_map]
    refine congrArg (List.flatMap · outcomes) (funext fun outcome => ?_)
    cases outcome <;> rfl
  have busy : env.outcome.isPending = true ↔ ¬ outcomes.flatMap Outcome.calls = [] := by
    rw [← calls_eq, outcome]
    by_cases idle : env.calls = []
    · simp [idle, Outcome.isPending]
    · simp [idle, Outcome.isPending]
  rw [busy, List.flatMap_eq_nil_iff]
  constructor
  · intro some
    by_contra none
    refine some fun outcome member => ?_
    cases outcome with
    | ready v => rfl
    | pending d => exact absurd ⟨_, member, rfl⟩ none
  · rintro ⟨outcome, member, pending⟩ idle
    exact waits outcome member pending (idle outcome member)

/-- The entries of a tier are those of the two declarations: entries without names one after
another, each name once, in its first place, and with the local value if there is one. They are
evaluated from the left, each in a scope with the entries before it and the static variables of a
dynamic tier. So an entry does not depend on those behind it, and the whole is under way exactly
when one of the entries is. -/
theorem build_in_order (engine : Engine) (host : HostState) (tier : Tier)
    (statics : Option Environment) (globals locals : Option Declaration) (journal : Journal)
    (distinctGlobals : ∀ d ∈ globals, d.Distinct) (distinctLocals : ∀ d ∈ locals, d.Distinct) :
    let merged := Merged.merge globals locals
    let built := build engine host tier statics globals locals journal
    let scope (soFar : Environment) : Scope := match tier with
      | .static => { host, statics := some soFar }
      | .dynamic => { host, statics, dynamics := some soFar }
    (merged.positional =
        Declaration.positionalEntries globals ++ Declaration.positionalEntries locals ∧
      Fields.names merged.named = Fields.names (Declaration.namedEntries globals) ++
        (Fields.names (Declaration.namedEntries locals)).filter
          (fun name => name ∉ Fields.names (Declaration.namedEntries globals)) ∧
      ∀ name, Fields.find? name merged.named =
        (Fields.find? name (Declaration.namedEntries locals)).or
          (Fields.find? name (Declaration.namedEntries globals))) ∧
    (built.1.tier = tier ∧ built.1.positional.length = merged.positional.length ∧
      Fields.names built.1.named = Fields.names merged.named ∧ Fields.Distinct built.1.named) ∧
    (∃ (outcomes : List (Outcome Value)) (moments : Nat → Journal),
      moments 0 = journal ∧ moments (order merged).length = built.2 ∧
      built.1.entries = outcomes.map Outcome.node ∧ outcomes.length = (order merged).length ∧
      (∀ k entry, (order merged)[k]? = some entry → ∃ outcome, outcomes[k]? = some outcome ∧
        evaluateEntry engine (scope (built.1.upTo k)) entry.2 (moments k) =
          (outcome, moments (k + 1))) ∧
      (built.1.outcome.isPending = true ↔ ∃ outcome ∈ outcomes, outcome.isPending = true)) ∧
    ∀ globals' locals' k, (order (Merged.merge globals' locals')).take k = (order merged).take k →
      (build engine host tier statics globals' locals' journal).1.upTo k = built.1.upTo k := by
  intro merged built scope
  have distinct := Merged.distinct_merge globals locals
  have arranged := arranged_order merged distinct
  have values : ∀ entry ∈ order merged, entry.2.Distinct :=
    distinct_order distinctGlobals distinctLocals
  have upTo (k : Nat) : built.1.upTo k =
      (buildEntries engine host tier statics journal ((order merged).take k)).1 :=
    upTo_buildEntries engine host tier statics journal arranged k
  obtain ⟨length, names⟩ := shape_buildEntries engine host tier statics journal arranged
  have length_eq : built.1.positional.length = merged.positional.length := by
    refine length.trans ?_
    simp [order, List.countP_append, List.countP_map, Function.comp_def]
  have names_eq : Fields.names built.1.named = Fields.names merged.named := by
    refine names.trans ?_
    simp [order, List.filterMap_map, Fields.names]
  have scope_eq (k : Nat) : scope (built.1.upTo k) = entryScope host statics (built.1.upTo k) := by
    have same : (built.1.upTo k).tier = tier := by
      rw [upTo]
      exact tier_buildEntries engine host tier statics journal
    cases tier <;> simp only [scope, entryScope, same]
  have namesGlobals := (Declaration.distinct_namedEntries distinctGlobals).1
  have namesLocals := (Declaration.distinct_namedEntries distinctLocals).1
  refine ⟨⟨Merged.positional_merge globals locals, Merged.names_merge _ _ namesGlobals namesLocals,
    Merged.find?_merge _ _ namesGlobals namesLocals⟩,
    ⟨tier_buildEntries engine host tier statics journal, length_eq, names_eq, ?_⟩, ?_, ?_⟩
  · rw [Fields.Distinct, names_eq]
    exact distinct
  · obtain ⟨outcomes, count, nodes, waits, evaluated⟩ :=
      exists_outcomes engine host tier statics journal arranged values
    refine ⟨outcomes,
      fun k => (buildEntries engine host tier statics journal ((order merged).take k)).2,
      rfl, ?_, nodes, count, ?_, ?_⟩
    · dsimp only
      rw [List.take_length]
      rfl
    · intro k entry found
      rw [scope_eq, upTo]
      exact evaluated k entry found
    · exact isPending_outcome_iff nodes waits
  · intro globals' locals' k same
    have arranged' := arranged_order _ (Merged.distinct_merge globals' locals')
    rw [upTo, ← same]
    exact upTo_buildEntries engine host tier statics journal arranged' k

/-- The local `lamp` stands in the place of the global one, and its call keeps all variables under
way. -/
theorem build_in_order_later :
    let globals := some (Declaration.named [("lamp", .null)])
    let locals :=
      some (Declaration.named [("room", .bool true), ("lamp", .text "<$ later('lamp') $>")])
    let built := build { registry := Expr.gated } {} .dynamic none globals locals {}
    (∀ d ∈ globals, d.Distinct) ∧ (∀ d ∈ locals, d.Distinct) ∧
      Fields.names built.1.named = ["lamp", "room"] ∧ built.1.outcome.isPending = true := by
  intro globals locals built
  have distinctGlobals : ∀ d ∈ globals, d.Distinct := by
    intro d held
    rw [← Option.some.inj held]
    exact .named (List.nodup_singleton "lamp") (List.forall_mem_singleton.mpr .null)
  have distinctLocals : ∀ d ∈ locals, d.Distinct := by
    intro d held
    rw [← Option.some.inj held]
    refine .named (by simp [Fields.Distinct, Fields.names]) ?_
    simp only [List.forall_mem_cons]
    exact ⟨.bool _, .text _, List.forall_mem_nil _⟩
  obtain ⟨_, ⟨_, _, names, _⟩, ⟨outcomes, moments, start, _, _, _, evaluated, pending⟩, _⟩ :=
    build_in_order { registry := Expr.gated } {} .dynamic none globals locals {} distinctGlobals
      distinctLocals
  refine ⟨distinctGlobals, distinctLocals, names, pending.mpr ?_⟩
  obtain ⟨outcome, first, entered⟩ :=
    evaluated 0 (some "lamp", .text "<$ later('lamp') $>") rfl
  rw [start, evaluateEntry, Walk.evaluateTemplate_later] at entered
  refine ⟨outcome, List.mem_of_getElem? first, ?_⟩
  rw [← (Prod.mk.inj entered).1]
  rfl

end Environment

end LiveConfig
