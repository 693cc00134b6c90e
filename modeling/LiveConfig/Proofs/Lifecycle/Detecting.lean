import LiveConfig.Proofs.Lifecycle.Unobserved

set_option autoImplicit false

namespace LiveConfig

/-- The complaint about an entity list. -/
def Event.ignored? : Event → Option EntityComplaint
  | .entitiesIgnored complaint => some complaint
  | _ => none

theorem Value.eq_text_of_mem_strings {v : Value} {s : String} (member : ([], s) ∈ v.strings []) :
    v = .text s := by
  cases v with
  | text t =>
    obtain ⟨_, rfl⟩ := Prod.mk.inj (List.mem_singleton.mp member)
    rfl
  | array items =>
    obtain ⟨_, _, _, _, _, same⟩ := mem_itemStrings.mp member
    cases same
  | object fields =>
    obtain ⟨_, _, _, _, same⟩ := mem_fieldStrings.mp member
    cases same
  | null | bool | number => cases member

namespace Walk

/-- What a string comes to after the first strings of the tree. -/
def outcomeAt (engine : Engine) (scope : Scope) (tree : Value) (start : Journal) (k : Nat)
    (text : String) : Outcome Value :=
  let (walk, journal) := before engine scope tree start k
  (engine.evaluateTemplate { scope with output := some walk.tree } .structural text journal).1

section

variable {engine : Engine} {scope : Scope} {tree : Value} {start : Journal}

/-- What the first strings came to does not depend on how far the walk has gone since. -/
theorem Visited.take_eq {visits visits' : Visits} {state state' : Walk × Journal} {k : Nat}
    (whole : Visited engine scope tree start (tree.strings []) visits state)
    (part : Visited engine scope tree start ((tree.strings []).take k) visits' state') :
    visits' = visits.take k := by
  -- by induction on the number of strings: a draft depends on the results before it alone
  have shared (j : Nat) (within : j ≤ k) : visits'.take j = visits.take j := by
    induction j with
    | zero => rfl
    | succ j ih =>
      have earlier := ih (by omega)
      have same : visits'[j]? = visits[j]? := by
        cases found : (tree.strings [])[j]? with
        | some leaf =>
          have first : ((tree.strings []).take k)[j]? = some leaf := by
            rw [List.getElem?_take_of_lt within, found]
          rw [part.drafts j leaf first, whole.drafts j leaf found, earlier]
        | none =>
          have beyond : (tree.strings []).length ≤ j := List.getElem?_eq_none_iff.mp found
          have length := congrArg List.length whole.paths
          have length' := congrArg List.length part.paths
          simp only [List.length_map, List.length_take] at length length'
          rw [List.getElem?_eq_none (by omega), List.getElem?_eq_none (by omega)]
      rw [List.take_add_one, List.take_add_one, earlier, same]
  have length := congrArg List.length part.paths
  simp only [List.length_map, List.length_take] at length
  rw [← shared k (Nat.le_refl k), List.take_of_length_le (by omega)]

theorem Visited.getElem?_results {visits : Visits} {state : Walk × Journal}
    (visited : Visited engine scope tree start (tree.strings []) visits state)
    (distinct : tree.Distinct) {k : Nat} {path : Path} {text : String}
    (found : (tree.strings [])[k]? = some (path, text)) :
    (Visits.results start.calls.length visits)[k]? =
      some (path, outcomeAt engine scope tree start k text) := by
  obtain ⟨visits', earlier⟩ := visited_before engine scope distinct start k
  obtain rfl := visited.take_eq earlier
  have results : (before engine scope tree start k).2.calls.result? = start.calls.result? := by
    rw [earlier.journal_eq, Visits.result?_enter]
  have length : (before engine scope tree start k).2.calls.length =
      start.calls.length + (Visits.started (visits.take k)).length := by
    rw [earlier.journal_eq]
    exact List.length_append
  have evaluated := evaluateTemplate_eq_of_shown engine scope results earlier.toValue_eq text
  have drafted := visited.drafts k (path, text) found
  generalize engine.draft _ .structural text = draft at evaluated drafted
  have outcome_eq : outcomeAt engine scope tree start k text =
      draft.outcome (start.calls.length + (Visits.started (visits.take k)).length) := by
    rw [← length]
    exact congrArg Prod.fst evaluated
  rw [Visits.getElem?_results, drafted, outcome_eq]
  rfl

theorem Visited.node_eq {visits : Visits} {state : Walk × Journal}
    (visited : Visited engine scope tree start (tree.strings []) visits state)
    (distinct : tree.Distinct) {k : Nat} {path : Path} {text : String}
    (found : (tree.strings [])[k]? = some (path, text)) :
    Results.node (Visits.results start.calls.length visits) path text =
      (outcomeAt engine scope tree start k text).node := by
  have nodup : ((Visits.results start.calls.length visits).map Prod.fst).Nodup := by
    rw [Visits.map_fst_results, visited.paths]
    exact Value.nodup_paths distinct
  rw [Results.node, Results.lookup_of_getElem? nodup (visited.getElem?_results distinct found)]

end

theorem ignored_run (engine : Engine) (scope : Scope) {tree : Value} (distinct : tree.Distinct)
    (start : Journal) :
    (run engine scope tree start).2.events.filterMap Event.ignored? =
      start.events.filterMap Event.ignored? := by
  obtain ⟨visits, visited⟩ := visited_run engine scope distinct start
  have silent (piece : Piece) : piece.reported.filterMap Event.ignored? = [] := by
    cases piece <;> rfl
  have quiet : (Visits.reported visits).filterMap Event.ignored? = [] := by
    simp [Visits.reported, Draft.reported, List.filterMap_flatMap, silent]
  rw [visited.journal_eq, Visits.enter, List.filterMap_append, quiet, List.append_nil]

end Walk

namespace Change

/-- What an entity list comes to as a whole: a template may be under way, anything else is there. -/
def whole (engine : Engine) (scope : Scope) (journal : Journal) : Value → Outcome Value
  | .text template => Walk.outcomeAt engine scope (.text template) journal 0 template
  | list => .ready list

/-- What there is to complain about. -/
def complaint? : Outcome Value → Option EntityComplaint
  | .ready (.array _) => none
  | .ready value => some (.notArray value.kind)
  | .pending _ => some .pending

/-- The identifiers that a list gives at once: a string of a literal array gives the text it comes
to, a template the texts in the array it comes to. -/
inductive Available (engine : Engine) (scope : Scope) (journal : Journal) : Value → String → Prop
  | element {items : List Value} {k i : Nat} {s id : String}
      (leaf : ((Value.array items).strings [])[k]? = some ([.index i], s))
      (evaluated : Walk.outcomeAt engine scope (.array items) journal k s = .ready (.text id)) :
      Available engine scope journal (.array items) id
  | member {template id : String} {items : List Value}
      (evaluated : whole engine scope journal (.text template) = .ready (.array items))
      (listed : .text id ∈ items) :
      Available engine scope journal (.text template) id

/-- The states of an entity differ; one that only one of the hosts has differs as well. -/
def Differ (old new : HostState) (id : String) : Prop :=
  (old.state? id).isSome ≠ (new.state? id).isSome ∨
    ∃ before now, old.state? id = some before ∧ new.state? id = some now ∧
      before.same now = false

theorem differs_iff (old new : HostState) (id : String) :
    differs old new id = true ↔ Differ old new id := by
  unfold differs Differ
  cases old.state? id <;> cases new.state? id <;> simp [Value.sameState]

theorem complaint?_eq_none_iff (outcome : Outcome Value) :
    complaint? outcome = none ↔ ∃ items, outcome = .ready (.array items) := by
  cases outcome with
  | pending d => simp [complaint?]
  | ready v => cases v <;> simp [complaint?]

section

variable {engine : Engine} {scope : Scope} {journal : Journal}

theorem Available.whole_eq {list : Value} {id : String}
    (available : Available engine scope journal list id) :
    ∃ items, whole engine scope journal list = .ready (.array items) := by
  cases available with
  | element => exact ⟨_, rfl⟩
  | member evaluated => exact ⟨_, evaluated⟩

theorem whole_eq_empty_iff {list : Value} (filled : list ≠ .array []) :
    whole engine scope journal list = .ready (.array []) ↔ ∃ template, list = .text template ∧
      whole engine scope journal (.text template) = .ready (.array []) := by
  constructor
  · intro empty
    cases list with
    | text template => exact ⟨template, rfl, empty⟩
    | array items =>
      cases empty
      exact absurd rfl filled
    | null | bool | number | object => cases empty
  · rintro ⟨template, rfl, empty⟩
    exact empty

/-- The meaning of a selection. -/
inductive Selects (engine : Engine) (scope : Scope) (journal : Journal) (list : Value) :
    Selection → Prop
  | everything {template : String} (text : list = .text template)
      (empty : whole engine scope journal list = .ready (.array [])) :
      Selects engine scope journal list .everything
  | entities {ids : List String} (array : complaint? (whole engine scope journal list) = none)
      (filled : whole engine scope journal list = .ready (.array []) → list = .array [])
      (listed : ∀ id, id ∈ ids ↔ Available engine scope journal list id) :
      Selects engine scope journal list (.entities ids)
  | nothing {complaint : EntityComplaint}
      (reason : complaint? (whole engine scope journal list) = some complaint) :
      Selects engine scope journal list (.nothing complaint)

theorem tree_run_text (engine : Engine) (scope : Scope) (journal : Journal) (template : String) :
    (Walk.run engine scope (.text template) journal).1.tree =
      (whole engine scope journal (.text template)).node := by
  obtain ⟨visits, visited⟩ := Walk.visited_run engine scope (.text template) journal
  have first : ((Value.text template).strings [])[0]? = some ([], template) := rfl
  rw [visited.tree_eq, Value.graft_text, visited.node_eq (.text template) first]
  rfl

theorem selects_text (engine : Engine) (scope : Scope) (journal : Journal) (template : String) :
    Selects engine scope journal (.text template)
      (select (Walk.run engine scope (.text template) journal).1.tree) := by
  rw [tree_run_text]
  cases evaluated : whole engine scope journal (.text template) with
  | pending d => exact .nothing (by rw [evaluated]; rfl)
  | ready v =>
    cases v with
    | array items =>
      cases items with
      | nil => exact .everything rfl evaluated
      | cons item rest =>
        refine .entities (by rw [evaluated]; rfl) (fun empty => ?_) fun id => ?_
        · rw [evaluated] at empty
          cases empty
        · have listed : id ∈ (item :: rest).filterMap Value.text? ↔ .text id ∈ item :: rest := by
            rw [List.mem_filterMap]
            constructor
            · rintro ⟨entry, member, named⟩
              cases entry <;> cases named
              exact member
            · intro member
              exact ⟨.text id, member, rfl⟩
          refine listed.trans ⟨fun member => .member evaluated member, fun available => ?_⟩
          cases available with
          | member evaluated' member =>
            rw [evaluated] at evaluated'
            cases evaluated'
            exact member
    | null | bool | number | text | object => exact .nothing (by rw [evaluated]; rfl)

theorem readyId?_node {outcome : Outcome Value} {id : String} :
    readyId? outcome.node = some id ↔ outcome = .ready (.text id) := by
  cases outcome with
  | pending d => simp [Outcome.node, readyId?]
  | ready v => cases v <;> simp [Outcome.node, readyId?]

theorem selects_array (engine : Engine) (scope : Scope) (journal : Journal) {items : List Value}
    (distinct : (Value.array items).Distinct) :
    Selects engine scope journal (.array items)
      (select (Walk.run engine scope (.array items) journal).1.tree) := by
  obtain ⟨visits, visited⟩ := Walk.visited_run engine scope distinct journal
  rw [visited.tree_eq, Value.graft_array, select]
  refine .entities rfl (fun empty => ?_) fun id => ?_
  · cases empty
    rfl
  · rw [List.mem_filterMap]
    constructor
    · rintro ⟨node, member, named⟩
      obtain ⟨i, placed⟩ := List.getElem?_of_mem member
      rw [Value.getElem?_graftItems, Nat.zero_add, Option.map_eq_some_iff] at placed
      obtain ⟨item, found, rfl⟩ := placed
      cases item with
      | text s =>
        have inside : ([.index i], s) ∈ (Value.array items).strings [] :=
          Value.mem_itemStrings.mpr
            ⟨i, .text s, ([], s), found, List.mem_singleton_self _, by rw [Nat.zero_add]⟩
        obtain ⟨k, leaf⟩ := List.getElem?_of_mem inside
        rw [Value.graft_text, visited.node_eq distinct leaf, readyId?_node] at named
        exact .element leaf named
      | array others => cases named
      | object fields => cases named
      | null | bool | number => cases named
    · intro available
      cases available with
      | @element _ k i s _ leaf evaluated =>
        obtain ⟨j, item, ⟨path, text⟩, found, inside, same⟩ :=
          Value.mem_itemStrings.mp (List.mem_of_getElem? leaf)
        simp only [Nat.zero_add, Prod.mk.injEq, List.cons.injEq, Step.index.injEq] at same
        obtain ⟨⟨rfl, rfl⟩, rfl⟩ := same
        obtain rfl := Value.eq_text_of_mem_strings inside
        have placed := Value.getElem?_graftItems
          (Results.node (Visits.results journal.calls.length visits)) 0 items i
        rw [found, Option.map_some, Value.graft_text, Nat.zero_add,
          visited.node_eq distinct leaf] at placed
        exact ⟨_, List.mem_of_getElem? placed, readyId?_node.mpr evaluated⟩

theorem selects_run (engine : Engine) (scope : Scope) (journal : Journal) {list : Value}
    (distinct : list.Distinct) :
    Selects engine scope journal list (select (Walk.run engine scope list journal).1.tree) := by
  cases list with
  | text template => exact selects_text engine scope journal template
  | array items => exact selects_array engine scope journal distinct
  | object fields =>
    obtain ⟨visits, visited⟩ := Walk.visited_run engine scope distinct journal
    rw [visited.tree_eq, Value.graft_object]
    exact .nothing rfl
  | null | bool | number => exact .nothing rfl

/-- What follows from a selection. -/
def answer (old new : HostState) (journal : Journal) : Selection → Bool × Journal
  | .everything => (true, journal)
  | .entities ids => (ids.any (differs old new), journal)
  | .nothing complaint => (false, journal.emit (.entitiesIgnored complaint))

theorem isObservable_of_filled (old : HostState) {list : Value} (filled : list ≠ .array []) :
    isObservable engine old scope (some list) journal =
      answer old scope.host (Walk.run engine scope list journal).2
        (select (Walk.run engine scope list journal).1.tree) := by
  rw [isObservable]
  · obtain ⟨walk, journal⟩ := Walk.run engine scope list journal
    cases selected : select walk.tree <;> simp only [selected, answer]
  · exact filled

theorem isObservable_eq_true_iff (old : HostState) {list : Value} (distinct : list.Distinct)
    (filled : list ≠ .array []) :
    (isObservable engine old scope (some list) journal).1 = true ↔
      whole engine scope journal list = .ready (.array []) ∨
        ∃ id, Available engine scope journal list id ∧ Differ old scope.host id := by
  have selects := selects_run engine scope journal distinct
  rw [isObservable_of_filled old filled]
  generalize select (Walk.run engine scope list journal).1.tree = selection at selects ⊢
  cases selects with
  | everything text empty => exact iff_of_true rfl (.inl empty)
  | nothing reason =>
    refine iff_of_false Bool.false_ne_true ?_
    rintro (empty | ⟨id, available, _⟩)
    · rw [empty] at reason
      cases reason
    · obtain ⟨items, array⟩ := available.whole_eq
      rw [array] at reason
      cases reason
  | entities array empty listed =>
    show List.any _ _ = true ↔ _
    simp only [List.any_eq_true, differs_iff, listed]
    exact ⟨.inr, fun either => either.elim (fun none => absurd (empty none) filled) id⟩

theorem ignored_isObservable (old : HostState) {list : Value} (distinct : list.Distinct) :
    (isObservable engine old scope (some list) journal).2.events.filterMap Event.ignored? =
      journal.events.filterMap Event.ignored? ++
        (complaint? (whole engine scope journal list)).toList := by
  by_cases empty : list = .array []
  · subst empty
    exact (List.append_nil _).symm
  · have selects := selects_run engine scope journal distinct
    have silent := Walk.ignored_run engine scope distinct journal
    rw [isObservable_of_filled old empty, ← silent]
    generalize select (Walk.run engine scope list journal).1.tree = selection at selects ⊢
    cases selects with
    | everything text none =>
      rw [none]
      exact (List.append_nil _).symm
    | entities array _ _ =>
      rw [array]
      exact (List.append_nil _).symm
    | nothing reason =>
      rw [reason]
      exact List.filterMap_append

/-- A list of plain texts and a template that comes to the same list call for a render alike. -/
theorem isObservable_template (old : HostState) {listed : List String} {template : String}
    (plain : ∀ k ∈ listed, Template.classify k = .plain)
    (evaluated : whole engine scope journal (.text template) =
      .ready (.array (listed.map .text))) :
    (isObservable engine old scope (some (.text template)) journal).1 =
      (isObservable engine old scope (some (.array (listed.map .text))) journal).1 := by
  have filled : Value.text template ≠ .array [] := nofun
  rw [isObservable_of_filled old filled]
  simp only [tree_run_text, evaluated, Outcome.node]
  cases listed with
  | nil => rfl
  | cons k rest =>
    have texts : ((k :: rest).map Value.text).filterMap Value.text? = k :: rest := by
      rw [List.filterMap_map]
      exact List.filterMap_some
    rw [isObservable_texts engine old scope journal (List.cons_ne_nil k rest) plain]
    exact congrArg (List.any · _) texts

/-- Change detection calls for a render exactly when there is no entity list, the list is empty, as
it stands or as its template comes to, or the states of an identifier that the list gives at once
differ; what the other entries come to has no say. It complains once about a list that is under way
as a whole or comes to no array, and about no other list. -/
theorem isObservable_iff_available (engine : Engine) (old : HostState) (scope : Scope)
    (entities : Option Value) (journal : Journal)
    (distinct : ∀ list ∈ entities, list.Distinct) :
    let answered := isObservable engine old scope entities journal
    let complaints (journal : Journal) := journal.events.filterMap Event.ignored?
    (answered.1 = true ↔ entities = none ∨ entities = some (.array []) ∨
      (∃ template, entities = some (.text template) ∧
        whole engine scope journal (.text template) = .ready (.array [])) ∨
      ∃ list id, entities = some list ∧ Available engine scope journal list id ∧
        Differ old scope.host id) ∧
    complaints answered.2 = complaints journal ++
      (entities.bind fun list => complaint? (whole engine scope journal list)).toList ∧
    (∀ list ∈ entities, complaint? (whole engine scope journal list) = none ↔
      ∃ items, whole engine scope journal list = .ready (.array items)) ∧
    ∀ (listed : List String) (template : String),
      (∀ k ∈ listed, Template.classify k = .plain) →
      whole engine scope journal (.text template) = .ready (.array (listed.map .text)) →
      (isObservable engine old scope (some (.text template)) journal).1 =
        (isObservable engine old scope (some (.array (listed.map .text))) journal).1 := by
  intro answered complaints
  refine ⟨?_, ?_, fun list _ => complaint?_eq_none_iff _, fun listed template plain evaluated =>
    isObservable_template old plain evaluated⟩
  · cases entities with
    | none => exact iff_of_true rfl (.inl rfl)
    | some list =>
      by_cases empty : list = .array []
      · subst empty
        exact iff_of_true rfl (.inr (.inl rfl))
      · have answer : answered.1 = true ↔ _ :=
          isObservable_eq_true_iff old (distinct list rfl) empty
        rw [answer, whole_eq_empty_iff empty]
        constructor
        · rintro (⟨template, rfl, none⟩ | ⟨id, available, differ⟩)
          · exact .inr (.inr (.inl ⟨template, rfl, none⟩))
          · exact .inr (.inr (.inr ⟨list, id, rfl, available, differ⟩))
        · rintro (absent | bare | ⟨template, same, none⟩ | ⟨list', id, same, available, differ⟩)
          · cases absent
          · exact absurd (Option.some.inj bare) empty
          · exact .inl ⟨template, Option.some.inj same, none⟩
          · cases same
            exact .inr ⟨id, available, differ⟩
  · cases entities with
    | none => exact (List.append_nil _).symm
    | some list => exact ignored_isObservable old (distinct list rfl)

end

/-- The light is new in the host, and an entry that fails before it does not hide that. -/
theorem isObservable_beside_failing :
    let list := Value.array [.text "<$ nope $>", .text "light.kitchen"]
    let now : HostState := { states := [("light.kitchen", .text "on")] }
    let answered := isObservable {} {} { host := now } (some list) {}
    (∀ listed ∈ some list, listed.Distinct) ∧ answered.1 = true ∧
      answered.2.events.filterMap Event.ignored? = [] := by
  intro list now answered
  have distinct : ∀ listed ∈ some list, listed.Distinct := by
    intro listed held
    rw [← Option.some.inj held]
    refine .array ?_
    simp only [List.forall_mem_cons]
    exact ⟨.text _, .text _, List.forall_mem_nil _⟩
  have available : Available {} { host := now } {} list "light.kitchen" := by
    refine .element (k := 1) (i := 1) (s := "light.kitchen") rfl ?_
    simp only [Walk.outcomeAt, Engine.evaluateTemplate, Lifecycle.classify_kitchen]
  have differ : Differ {} now "light.kitchen" := .inl (by decide)
  obtain ⟨calls, complaints, _, _⟩ :=
    isObservable_iff_available {} {} { host := now } (some list) {} distinct
  exact ⟨distinct, calls.mpr (.inr (.inr (.inr ⟨list, _, rfl, available, differ⟩))), complaints⟩

end Change

end LiveConfig
