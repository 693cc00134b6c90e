import LiveConfig.Proofs.Evaluation.Reading

set_option autoImplicit false

namespace LiveConfig

namespace Call

/-- Whether the result has arrived, observed or not. -/
def isFinished (call : Call) : Bool :=
  match call.progress with
  | .waiting _ => false
  | .arrived _ => true
  | .observed _ => true

/-- The call after its result is taken up, if that has arrived. -/
def taken (call : Call) : Call :=
  match call.progress with
  | .arrived result => { call with progress := .observed result }
  | _ => call

/-- What is reported when the result is taken up. -/
def report (call : Call) : List Event :=
  match call.blame, call.progress with
  | some source, .arrived (.error message) => [.expressionFailed source (.host message)]
  | _, _ => []

theorem isFinished_taken (call : Call) : call.taken.isFinished = call.isFinished := by
  obtain ⟨blame, progress⟩ := call
  cases progress <;> rfl

end Call

namespace Calls

/-- Every result that was observed is observed still. -/
def Keep (calls later : Calls) : Prop :=
  ∀ id result, calls.result? id = some result → later.result? id = some result

def isFinished (calls : Calls) (id : CallId) : Bool :=
  calls[id]?.any Call.isFinished

theorem isFinished_of_isObserved {calls : Calls} {id : CallId}
    (observed : calls.isObserved id = true) : calls.isFinished id = true := by
  unfold isObserved result? at observed
  unfold isFinished
  split at observed
  · next found =>
    rw [found]
    rfl
  · cases observed

namespace Keep

theorem refl (calls : Calls) : Keep calls calls :=
  fun _ _ observed => observed

theorem trans {first second third : Calls} (before : Keep first second)
    (after : Keep second third) : Keep first third :=
  fun id result observed => after id result (before id result observed)

theorem append (calls fresh : Calls) : Keep calls (calls ++ fresh) := by
  intro id result observed
  have inside : id < calls.length := by
    refine Nat.lt_of_not_le fun beyond => ?_
    simp [result?, List.getElem?_eq_none beyond] at observed
  simpa only [result?, List.getElem?_append_left inside] using observed

theorem map {change : Call → Call}
    (fixed : ∀ blame result, change ⟨blame, .observed result⟩ = ⟨blame, .observed result⟩)
    (calls : Calls) : Keep calls (calls.map change) := by
  intro id result observed
  unfold result? at observed ⊢
  split at observed
  · next blame value found =>
    rw [List.getElem?_map, found, Option.map_some, fixed]
    exact observed
  · cases observed

variable {calls later : Calls}

theorem isObserved (keep : Keep calls later) {id : CallId} (observed : calls.isObserved id = true) :
    later.isObserved id = true := by
  obtain ⟨result, found⟩ := Option.isSome_iff_exists.mp observed
  rw [Calls.isObserved, keep id result found]
  rfl

theorem isSettled {α : Type} (keep : Keep calls later) {d : Deferred α}
    (settled : d.isSettled calls = true) : d.isSettled later = true := by
  refine List.all_eq_true.mpr fun id member => ?_
  exact keep.isObserved (List.all_eq_true.mp settled id member)

theorem read_eq {α : Type} (keep : Keep calls later) {d : Deferred α}
    (settled : d.isSettled calls = true) : d.read later.answers = d.read calls.answers := by
  refine d.read_congr _ _ fun id member => ?_
  have observed := List.all_eq_true.mp settled id member
  obtain ⟨result, found⟩ := Option.isSome_iff_exists.mp observed
  simp only [answers, found, keep id result found]

theorem value? {α : Type} (keep : Keep calls later) {d : Deferred α} {value : α}
    (found : d.value? calls = some value) : d.value? later = some value := by
  obtain ⟨settled, read⟩ := Deferred.value?_eq_some_iff.mp found
  exact Deferred.value?_eq_some_iff.mpr
    ⟨keep.isSettled settled, (keep.read_eq settled).trans read⟩

theorem outcome_value? {α : Type} (keep : Keep calls later) {o : Outcome α} {value : α}
    (found : o.value? calls = some value) : o.value? later = some value := by
  cases o with
  | ready v => exact found
  | pending d => exact keep.value? found

end Keep

end Calls

namespace Journal

theorem keep_start (journal : Journal) (blame : Option String) (reply : Reply) :
    journal.calls.Keep (journal.start blame reply).2.calls :=
  .append journal.calls _

theorem keep_release (journal : Journal) (gate : String) (result : HostResult) :
    journal.calls.Keep (journal.release gate result).calls :=
  .map (fun _ _ => rfl) journal.calls

theorem keep_rejectWaiting (journal : Journal) (message : String) :
    journal.calls.Keep (journal.rejectWaiting message).calls :=
  .map (fun _ _ => rfl) journal.calls

theorem keep_observe (journal : Journal) (id : CallId) :
    journal.calls.Keep (journal.observe id).calls :=
  fun other result => journal.result?_observe id other result

theorem keep_poll (journal : Journal) (ids : List CallId) :
    journal.calls.Keep (journal.poll ids).calls :=
  fun other result => journal.result?_poll ids other result

theorem observe_eq (journal : Journal) (id : CallId) :
    journal.observe id =
      { calls := journal.calls.modify id Call.taken
        events := journal.events ++ journal.calls[id]?.toList.flatMap Call.report } := by
  have unchanged (same : ∀ call, journal.calls[id]? = some call → call.taken = call) :
      journal.calls.modify id Call.taken = journal.calls := by
    refine List.ext_getElem? fun other => ?_
    rw [List.getElem?_modify]
    by_cases here : id = other
    · subst here
      cases found : journal.calls[id]? with
      | none => rfl
      | some call => simp [same call found]
    · simp [here]
  unfold observe
  cases found : journal.calls[id]? with
  | none =>
    rw [unchanged (by simp [found])]
    simp
  | some call =>
    obtain ⟨blame, progress⟩ := call
    cases progress with
    | waiting gate =>
      rw [unchanged (by simp [found, Call.taken])]
      cases blame <;> simp [Call.report]
    | observed result =>
      rw [unchanged (by simp [found, Call.taken])]
      cases blame <;> simp [Call.report]
    | arrived result =>
      have entered : journal.calls.set id ⟨blame, .observed result⟩ =
          journal.calls.modify id Call.taken := by
        have inside : id < journal.calls.length := (List.getElem?_eq_some_iff.mp found).1
        refine List.ext_getElem? fun other => ?_
        rw [List.getElem?_modify, List.getElem?_set]
        by_cases same : id = other
        · subst same
          rw [if_pos rfl, if_pos inside, found]
          simp [Call.taken]
        · simp [same]
      cases blame <;> cases result <;> simp [entered, Call.report, emit]

theorem isFinished_observe (journal : Journal) (id other : CallId) :
    (journal.observe id).calls.isFinished other = journal.calls.isFinished other := by
  rw [observe_eq, Calls.isFinished, Calls.isFinished, List.getElem?_modify]
  cases journal.calls[other]? with
  | none => rfl
  | some call => by_cases same : id = other <;> simp [same, Call.isFinished_taken]

theorem isFinished_poll (journal : Journal) (ids : List CallId) (other : CallId) :
    (journal.poll ids).calls.isFinished other = journal.calls.isFinished other := by
  induction ids generalizing journal with
  | nil => rfl
  | cons id rest ih => rw [poll_cons, ih, isFinished_observe]

theorem isObserved_observe {journal : Journal} {id : CallId}
    (finished : journal.calls.isFinished id = true) :
    (journal.observe id).calls.isObserved id = true := by
  unfold Calls.isFinished at finished
  rw [observe_eq]
  unfold Calls.isObserved Calls.result?
  rw [List.getElem?_modify]
  cases found : journal.calls[id]? with
  | none => simp [found] at finished
  | some call =>
    obtain ⟨blame, progress⟩ := call
    cases progress with
    | waiting gate => simp [found, Call.isFinished] at finished
    | arrived result => simp [Call.taken]
    | observed result => simp [Call.taken]

theorem allObserved_poll (journal : Journal) (ids : List CallId) :
    (journal.poll ids).calls.allObserved ids = ids.all journal.calls.isFinished := by
  refine Bool.eq_iff_iff.mpr ⟨fun observed => ?_, fun finished => ?_⟩
  · refine List.all_eq_true.mpr fun id member => ?_
    rw [← isFinished_poll journal ids]
    exact Calls.isFinished_of_isObserved (List.all_eq_true.mp observed id member)
  · refine List.all_eq_true.mpr fun id member => ?_
    obtain ⟨before, after, rfl⟩ := List.append_of_mem member
    rw [poll_append, poll_cons]
    refine (keep_poll _ after).isObserved (isObserved_observe ?_)
    rw [isFinished_poll]
    exact List.all_eq_true.mp finished id member

end Journal

namespace Journal

theorem length_observe (journal : Journal) (id : CallId) :
    (journal.observe id).calls.length = journal.calls.length := by
  rw [observe_eq, List.length_modify]

theorem length_poll (journal : Journal) (ids : List CallId) :
    (journal.poll ids).calls.length = journal.calls.length := by
  induction ids generalizing journal with
  | nil => rfl
  | cons id rest ih => rw [poll_cons, ih, length_observe]

end Journal

/-- Calls at a later moment: what was observed stays, and no call is lost. -/
structure Calls.Advance (calls later : Calls) : Prop where
  keep : calls.Keep later
  length_le : calls.length ≤ later.length

namespace Calls.Advance

theorem refl (calls : Calls) : Advance calls calls :=
  ⟨.refl calls, Nat.le_refl _⟩

theorem trans {first second third : Calls} (before : Advance first second)
    (after : Advance second third) : Advance first third :=
  ⟨before.keep.trans after.keep, Nat.le_trans before.length_le after.length_le⟩

end Calls.Advance

namespace Partial

mutual

theorem allObserved_calls (calls : Calls) : ∀ tree : Partial,
    calls.allObserved tree.calls = tree.isSettled calls
  | .ready _ => rfl
  | .array items => allObserved_itemCalls calls items
  | .object fields => allObserved_fieldCalls calls fields
  | .pending _ => rfl

theorem allObserved_itemCalls (calls : Calls) : ∀ items : List Partial,
    calls.allObserved (itemCalls items) = itemsSettled calls items
  | [] => rfl
  | item :: rest => by
    rw [itemCalls, itemsSettled, ← allObserved_calls calls item, ← allObserved_itemCalls calls rest]
    exact List.all_append

theorem allObserved_fieldCalls (calls : Calls) : ∀ fields : List (String × Partial),
    calls.allObserved (fieldCalls fields) = fieldsSettled calls fields
  | [] => rfl
  | (_, value) :: rest => by
    rw [fieldCalls, fieldsSettled, ← allObserved_calls calls value,
      ← allObserved_fieldCalls calls rest]
    exact List.all_append

end

mutual

theorem read_of_isSettled (calls : Calls) : ∀ tree : Partial,
    tree.isSettled calls = true → tree.read calls.answers = tree.toValue calls
  | .ready _, _ => rfl
  | .array items, settled => congrArg Value.array (readItems_of_settled calls items settled)
  | .object fields, settled => congrArg Value.object (readFields_of_settled calls fields settled)
  | .pending d, settled => by
    have observed : d.isSettled calls = true := settled
    rw [read, toValue, Deferred.value?, if_pos observed]
    rfl

theorem readItems_of_settled (calls : Calls) : ∀ items : List Partial,
    itemsSettled calls items = true → readItems calls.answers items = toItems calls items
  | [], _ => rfl
  | item :: rest, settled => by
    obtain ⟨first, others⟩ := Bool.and_eq_true_iff.mp settled
    rw [readItems, toItems, read_of_isSettled calls item first,
      readItems_of_settled calls rest others]

theorem readFields_of_settled (calls : Calls) : ∀ fields : List (String × Partial),
    fieldsSettled calls fields = true → readFields calls.answers fields = toFields calls fields
  | [], _ => rfl
  | (_, value) :: rest, settled => by
    obtain ⟨first, others⟩ := Bool.and_eq_true_iff.mp settled
    rw [readFields, toFields, read_of_isSettled calls value first,
      readFields_of_settled calls rest others]

end

theorem isSettled_deferred (calls : Calls) (tree : Partial) :
    tree.deferred.isSettled calls = tree.isSettled calls :=
  allObserved_calls calls tree

theorem value?_deferred (calls : Calls) (tree : Partial) :
    tree.deferred.value? calls =
      if tree.isSettled calls then some (tree.toValue calls) else none := by
  rw [Deferred.value?, isSettled_deferred]
  by_cases all : tree.isSettled calls = true
  · rw [if_pos all, if_pos all]
    exact congrArg some (read_of_isSettled calls tree all)
  · rw [if_neg all, if_neg all]

end Partial

end LiveConfig
