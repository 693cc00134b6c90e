import LiveConfig.Proofs.Rewriting.Mirroring
import LiveConfig.Proofs.Rewriting.Settlement

set_option autoImplicit false

namespace LiveConfig

namespace Partial

/-- A later state of a tree, as the calls stand then: leaves under way may have given way to their
values, and nothing else is different. -/
inductive Advances (calls : Calls) : Partial → Partial → Prop where
  | ready (value : Value) : Advances calls (.ready value) (.ready value)
  | array {items later : List Partial} (length : items.length = later.length)
      (each : ∀ (i : Nat) (item item' : Partial), items[i]? = some item → later[i]? = some item' →
        Advances calls item item') : Advances calls (.array items) (.array later)
  | object {fields later : Fields Partial} (names : Fields.names fields = Fields.names later)
      (each : ∀ (i : Nat) (field field' : String × Partial), fields[i]? = some field →
        later[i]? = some field' → Advances calls field.2 field'.2) :
      Advances calls (.object fields) (.object later)
  | waiting (d : Deferred Value) : Advances calls (.pending d) (.pending d)
  | arrived {d : Deferred Value} {value : Value} (found : d.value? calls = some value) :
      Advances calls (.pending d) (.ready value)

theorem map_eq_map_of_getElem? {α β : Type} {f g : α → β} {items later : List α}
    (length : items.length = later.length)
    (each : ∀ (i : Nat) (item item' : α), items[i]? = some item → later[i]? = some item' →
      f item = g item') : items.map f = later.map g := by
  refine List.ext_getElem (by simpa using length) fun i here there => ?_
  rw [List.getElem_map, List.getElem_map]
  exact each i _ _ (List.getElem?_eq_getElem _) (List.getElem?_eq_getElem _)

theorem length_of_names {fields later : Fields Partial}
    (names : Fields.names fields = Fields.names later) : fields.length = later.length := by
  simpa [Fields.names] using congrArg List.length names

theorem name_eq {fields later : Fields Partial} (names : Fields.names fields = Fields.names later)
    {i : Nat} {field field' : String × Partial} (here : fields[i]? = some field)
    (there : later[i]? = some field') : field.1 = field'.1 := by
  simpa [Fields.names, here, there] using congrArg (·[i]?) names

theorem isSettled_array (calls : Calls) (items : List Partial) :
    isSettled calls (.array items) = (items.map (isSettled calls)).all id := by
  refine Bool.eq_iff_iff.mpr ((Value.itemsSettled_iff calls items).trans ?_)
  rw [List.all_map, List.all_eq_true]
  rfl

theorem isSettled_object (calls : Calls) (fields : List (String × Partial)) :
    isSettled calls (.object fields) =
      (fields.map fun field => field.2.isSettled calls).all id := by
  refine Bool.eq_iff_iff.mpr ((Value.fieldsSettled_iff calls fields).trans ?_)
  rw [List.all_map, List.all_eq_true]
  rfl

theorem resolve_array (calls : Calls) (items : List Partial) :
    resolve calls (.array items) = .array (items.map (resolve calls)) := by
  have each (items : List Partial) : resolveItems calls items = items.map (resolve calls) := by
    induction items with
    | nil => rfl
    | cons item rest ih => rw [resolveItems, ih, List.map_cons]
  rw [resolve, each]

theorem resolve_object (calls : Calls) (fields : List (String × Partial)) :
    resolve calls (.object fields) = .object (Fields.mapValues (resolve calls) fields) := by
  have each (fields : List (String × Partial)) :
      resolveFields calls fields = Fields.mapValues (resolve calls) fields := by
    induction fields with
    | nil => rfl
    | cons field rest ih =>
      rw [resolveFields, ih]
      rfl
  rw [resolve, each]

theorem advances_resolve (calls : Calls) (tree : Partial) :
    tree.Advances calls (tree.resolve calls) := by
  induction tree using inductionOn with
  | ready value => exact .ready value
  | pending d =>
    rw [resolve, ofDeferred]
    cases found : d.value? calls with
    | none => exact .waiting d
    | some value => exact .arrived found
  | array items ih =>
    rw [resolve_array]
    refine .array (List.length_map _).symm fun i item item' here there => ?_
    rw [List.getElem?_map, here] at there
    obtain rfl := Option.some.inj there
    exact ih item (List.mem_of_getElem? here)
  | object fields ih =>
    rw [resolve_object]
    refine .object (Fields.names_mapValues _ fields).symm fun i field field' here there => ?_
    rw [Fields.mapValues, List.getElem?_map, here] at there
    obtain rfl := Option.some.inj there
    exact ih field (List.mem_of_getElem? here)

theorem toValue_of_flying_eq_nil {tree : Partial} (landed : tree.flying = [])
    (calls calls' : Calls) : tree.toValue calls = tree.toValue calls' := by
  have idle : tree.calls = [] := by rw [calls_eq_flatMap, landed, List.flatMap_nil]
  exact congrArg Prod.snd (shown_of_calls_eq_nil idle calls calls')

namespace Advances

variable {calls : Calls} {tree later : Partial}

/-- What a tree was earlier reads the same as what it is now. -/
theorem toValue_eq (advances : tree.Advances calls later) :
    tree.toValue calls = later.toValue calls := by
  induction advances with
  | ready value => rfl
  | waiting d => rfl
  | arrived found => exact congrArg (·.getD Value.null) found
  | array length _ ih =>
    rw [toValue, toValue, Value.toItems_eq_map, Value.toItems_eq_map]
    exact congrArg Value.array (map_eq_map_of_getElem? length ih)
  | @object fields later names _ ih =>
    rw [toValue, toValue, Value.toFields_eq_map, Value.toFields_eq_map]
    refine congrArg Value.object (map_eq_map_of_getElem? (length_of_names names) ?_)
    intro i field field' here there
    rw [name_eq names here there, ih i field field' here there]

theorem isSettled_eq (advances : tree.Advances calls later) :
    tree.isSettled calls = later.isSettled calls := by
  induction advances with
  | ready value => rfl
  | waiting d => rfl
  | arrived found => exact (Deferred.value?_eq_some_iff.mp found).1
  | @array items later length _ ih =>
    rw [isSettled_array, isSettled_array, map_eq_map_of_getElem? length ih]
  | @object fields later names _ ih =>
    rw [isSettled_object, isSettled_object, map_eq_map_of_getElem? (length_of_names names) ih]

/-- When nothing is under way any more, resolving what the tree was earlier makes what it is. -/
theorem resolve_eq (advances : tree.Advances calls later) (landed : later.flying = []) :
    tree.resolve calls = later := by
  induction advances with
  | ready value => rfl
  | waiting d => cases landed
  | arrived found =>
    rw [resolve, ofDeferred]
    simp only [found]
  | @array items later length _ ih =>
    rw [flying_array, List.flatMap_eq_nil_iff] at landed
    rw [resolve_array]
    refine congrArg Partial.array ((map_eq_map_of_getElem? length ?_).trans (List.map_id later))
    intro i item item' here there
    exact ih i item item' here there (landed item' (List.mem_of_getElem? there))
  | @object fields later names _ ih =>
    rw [flying_object, List.flatMap_eq_nil_iff] at landed
    rw [resolve_object]
    refine congrArg Partial.object
      ((map_eq_map_of_getElem? (length_of_names names) ?_).trans (List.map_id later))
    intro i field field' here there
    rw [name_eq names here there,
      ih i field field' here there (landed field' (List.mem_of_getElem? there))]
    rfl

end Advances

end Partial

namespace Value

theorem flying_graft : ∀ (v : Value) {node : Path → String → Partial},
    (v.graft node).flying = (v.strings []).flatMap fun leaf => (node leaf.1 leaf.2).flying := by
  intro v
  induction v using inductionOn with
  | scalar v text array object =>
    intro node
    rw [graft_scalar node text array object]
    cases v with
    | text s => exact absurd rfl (text s)
    | array items => exact absurd rfl (array items)
    | object fields => exact absurd rfl (object fields)
    | null | bool | number => rfl
  | text s =>
    intro node
    rw [graft_text, strings, List.flatMap_singleton]
    rfl
  | array items ih =>
    intro node
    rw [graft_array, Partial.flying_array, strings]
    generalize 0 = index
    induction items generalizing index with
    | nil => rfl
    | cons item rest rest_ih =>
      obtain ⟨first, others⟩ := List.forall_mem_cons.mp ih
      rw [graftItems, List.flatMap_cons, first, rest_ih others, itemStrings_cons,
        List.flatMap_append, List.flatMap_map]
  | object fields ih =>
    intro node
    rw [graft_object, Partial.flying_object, strings]
    induction fields with
    | nil => rfl
    | cons field rest rest_ih =>
      obtain ⟨first, others⟩ := List.forall_mem_cons.mp ih
      rw [graftFields, List.flatMap_cons, first, rest_ih others, fieldStrings_cons,
        List.flatMap_append, List.flatMap_map]

theorem advances_graft {calls : Calls} : ∀ (v : Value) {node node' : Path → String → Partial},
    (∀ leaf ∈ v.strings [], (node leaf.1 leaf.2).Advances calls (node' leaf.1 leaf.2)) →
      (v.graft node).Advances calls (v.graft node') := by
  intro v
  induction v using inductionOn with
  | scalar v text array object =>
    intro node node' _
    rw [graft_scalar node text array object, graft_scalar node' text array object]
    exact .ready v
  | text s =>
    intro node node' advances
    rw [graft_text, graft_text]
    exact advances ([], s) (List.mem_singleton_self _)
  | array items ih =>
    intro node node' advances
    rw [graft_array, graft_array]
    refine .array ?_ fun i part part' here there => ?_
    · rw [length_graftItems, length_graftItems]
    · rw [getElem?_graftItems, Option.map_eq_some_iff] at here there
      obtain ⟨item, found, rfl⟩ := here
      obtain ⟨item', found', rfl⟩ := there
      obtain rfl : item = item' := Option.some.inj (found.symm.trans found')
      refine ih item (List.mem_of_getElem? found) fun inner member => ?_
      exact advances _ (mem_itemStrings.mpr ⟨i, item, inner, found, member, rfl⟩)
  | object fields ih =>
    intro node node' advances
    rw [graft_object, graft_object, graftFields_eq_map, graftFields_eq_map]
    refine .object ?_ fun i part part' here there => ?_
    · simp [Fields.names]
    · rw [List.getElem?_map, Option.map_eq_some_iff] at here there
      obtain ⟨field, found, rfl⟩ := here
      obtain ⟨field', found', rfl⟩ := there
      obtain rfl : field = field' := Option.some.inj (found.symm.trans found')
      refine ih field (List.mem_of_getElem? found) fun inner member => ?_
      exact advances _ (mem_fieldStrings.mpr
        ⟨field, List.mem_of_getElem? found, inner, member, rfl⟩)

end Value

theorem Turn.awaited_takeAll_sublist (turns : List Turn) (state : Walk × Journal) :
    (Turn.takeAll turns state).1.awaited.Sublist state.1.awaited := by
  refine List.foldlRecOn (motive := fun later => later.1.awaited.Sublist state.1.awaited) turns
    Turn.take (List.Sublist.refl _) fun later before turn _ => ?_
  refine List.Sublist.trans ?_ before
  cases turn with
  | takeUp place =>
    rw [Turn.take, Walk.takeUp]
    split
    · exact .refl _
    · dsimp only
      split
      · exact List.eraseIdx_sublist _ _
      · exact .refl _
  | poll =>
    rw [Turn.take, Walk.awaited_poll]
    exact List.filter_sublist
  | start | release | rejectWaiting | observe => exact .refl _

theorem Results.mem_flying_current {results : Results} {calls : Calls} {awaited : List Path}
    {path : Path} {text : String} {d : Deferred Value} :
    d ∈ (results.current calls awaited path text).flying ↔
      results.lookup path = some (.pending d) ∧ path ∈ awaited := by
  unfold current
  split
  · next e found =>
    rw [found]
    split
    · next waits => simp [Partial.flying, waits, eq_comm]
    · next waits => simp [Partial.flying, waits]
  · next v found => simp [Partial.flying, found]
  · next missing => simp [Partial.flying, missing]

namespace Walk

/-- A copy of the tree of a walk from some moment, beside the walk at a later moment. -/
structure EarlyCopy (copy : Partial) (state : Walk × Journal) : Prop where
  /-- The tree has the containers, the names and the ready leaves of the copy. -/
  advances : copy.Advances state.2.calls state.1.tree
  /-- So has what the copy is resolved to. -/
  kept : copy.Advances state.2.calls (copy.resolve state.2.calls)
  toValue_eq : copy.toValue state.2.calls = state.1.tree.toValue state.2.calls
  isSettled_eq : copy.isSettled state.2.calls = state.1.tree.isSettled state.2.calls
  /-- The next poll ends the walk exactly when the calls of the copy are finished. -/
  finished : (state.1.poll state.2).1.isDone = true ↔
    ∀ id ∈ copy.calls, state.2.calls.isFinished id = true
  /-- When the walk is done, the copy is settled, and resolving it gives the tree of the walk, in
  which nothing is under way and whose value is that of the copy, whatever happens then. -/
  settled : state.1.isDone = true → copy.isSettled state.2.calls = true ∧
    copy.resolve state.2.calls = state.1.tree ∧ state.1.tree.flying = [] ∧
    ∀ calls, state.1.tree.toValue calls = copy.toValue state.2.calls

section

variable {tree : Value} {results : Results} {early late : Walk × Journal}
  (settling : Settling tree results early) (settling' : Settling tree results late)
  (distinct : tree.Distinct) (paths : results.map Prod.fst = (tree.strings []).map Prod.fst)
  (keep : early.2.calls.Keep late.2.calls)
include settling settling' distinct paths keep

/-- The tree gets on from one moment of settling to a later one. -/
theorem Settling.advances (fewer : late.1.awaited ⊆ early.1.awaited) :
    early.1.tree.Advances late.2.calls late.1.tree := by
  rw [settling.tree_eq, settling'.tree_eq]
  refine tree.advances_graft fun leaf member => ?_
  have found := lookup_result distinct paths member
  unfold Results.current
  rw [found]
  cases outcome : results.result leaf.1 with
  | ready v => exact .ready v
  | pending d =>
    rw [outcome] at found
    by_cases waits : leaf.1 ∈ late.1.awaited.map Prod.fst
    · have waited : leaf.1 ∈ early.1.awaited.map Prod.fst := List.map_subset _ fewer waits
      simp only [waits, waited, if_true]
      exact .waiting d
    · have settled := settling'.settled leaf.1 d found waits
      by_cases waited : leaf.1 ∈ early.1.awaited.map Prod.fst
      · simp only [waits, waited, if_true, if_false]
        exact .arrived (if_pos settled)
      · simp only [waits, waited, if_false]
        rw [keep.read_eq (settling.settled leaf.1 d found waited)]
        exact .ready _

theorem Settling.isDone_poll_iff_calls : (late.1.poll late.2).1.isDone = true ↔
    ∀ id ∈ early.1.tree.calls, late.2.calls.isFinished id = true := by
  rw [settling'.isDone_poll_iff distinct paths, Partial.calls_eq_flatMap, settling.tree_eq,
    Value.flying_graft]
  constructor
  · intro finished id waited
    obtain ⟨d, flies, called⟩ := List.mem_flatMap.mp waited
    obtain ⟨leaf, member, inside⟩ := List.mem_flatMap.mp flies
    have found := (Results.mem_flying_current.mp inside).1
    refine finished leaf member id ?_
    rw [Results.result, found]
    exact called
  · intro finished leaf member id called
    have found := lookup_result distinct paths member
    cases outcome : results.result leaf.1 with
    | ready v =>
      rw [outcome] at called
      cases called
    | pending d =>
      rw [outcome] at found called
      by_cases waited : leaf.1 ∈ early.1.awaited.map Prod.fst
      · refine finished id (List.mem_flatMap.mpr ⟨d, ?_, called⟩)
        exact List.mem_flatMap.mpr
          ⟨leaf, member, Results.mem_flying_current.mpr ⟨found, waited⟩⟩
      · have settled := settling.settled leaf.1 d found waited
        exact Calls.isFinished_of_isObserved
          (keep.isObserved (List.all_eq_true.mp settled id called))

omit settling keep in
theorem Settling.flying_of_isDone (done : late.1.isDone = true) : late.1.tree.flying = [] := by
  rw [(settling'.of_isDone distinct paths done).2, Value.flying_graft, List.flatMap_eq_nil_iff]
  exact fun leaf _ => rfl

theorem Settling.earlyCopy (fewer : late.1.awaited ⊆ early.1.awaited) :
    EarlyCopy early.1.tree late := by
  have advances := settling.advances settling' distinct paths keep fewer
  refine ⟨advances, Partial.advances_resolve _ _, advances.toValue_eq, advances.isSettled_eq,
    settling.isDone_poll_iff_calls settling' distinct paths keep, fun done => ?_⟩
  have landed := settling'.flying_of_isDone distinct paths done
  refine ⟨?_, advances.resolve_eq landed, landed, fun calls => ?_⟩
  · rw [advances.isSettled_eq, Partial.isSettled_eq_all, landed]
    rfl
  · rw [advances.toValue_eq]
    exact Partial.toValue_of_flying_eq_nil landed _ _

end

/-- A copy may be taken and looked at again at any moment after a walk. -/
theorem earlyCopy_run (engine : Engine) (scope : Scope) {tree : Value} (distinct : tree.Distinct)
    (journal : Journal) (turns more : List Turn) :
    let walked := run engine scope tree journal
    EarlyCopy (Turn.takeAll turns walked).1.tree (Turn.takeAll (turns ++ more) walked) := by
  intro walked
  obtain ⟨visits, visited⟩ := visited_run engine scope distinct journal
  have paths : (Visits.results journal.calls.length visits).map Prod.fst =
      (tree.strings []).map Prod.fst := by
    rw [Visits.map_fst_results, visited.paths]
  have early := visited.settling.takeAll distinct paths turns
  rw [Turn.takeAll_append]
  exact early.earlyCopy (early.takeAll distinct paths more) distinct paths
    (Turn.keep_takeAll more _) (Turn.awaited_takeAll_sublist more _).subset

theorem value?_outcome_of_isDone {first state : Walk × Journal}
    (own : EarlyCopy first.1.tree first) (copied : EarlyCopy first.1.tree state)
    (done : state.1.isDone = true) :
    (first.1.outcome first.2.calls).value? state.2.calls =
      some (state.1.tree.toValue state.2.calls) := by
  obtain ⟨settled, -⟩ := copied.settled done
  rw [← copied.toValue_eq, outcome]
  split
  · next idle => exact congrArg some ((own.settled idle).2.2.2 state.2.calls).symm
  · rw [Outcome.value?, Partial.value?_deferred, if_pos settled]

end Walk

end LiveConfig
