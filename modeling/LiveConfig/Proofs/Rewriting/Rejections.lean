import LiveConfig.Proofs.Rewriting.Asynchrony
import LiveConfig.Proofs.Rewriting.Occurrences

set_option autoImplicit false

namespace LiveConfig

/-- What was reported about a call when its result was taken up. -/
def Call.rejection (call : Call) : List Event :=
  match call.blame, call.progress with
  | some source, .observed (.error message) => [.expressionFailed source (.host message)]
  | _, _ => []

namespace Call

theorem rejection_taken (call : Call) : call.taken.rejection = call.report ++ call.rejection := by
  obtain ⟨blame, progress⟩ := call
  cases progress with
  | waiting gate => cases blame <;> rfl
  | arrived result => cases blame <;> cases result <;> rfl
  | observed result => cases blame <;> cases result <;> rfl

theorem release_eq (gate : String) (result : HostResult) (call : Call) :
    (call.release gate result).blame = call.blame ∧
      (call.release gate result).rejection = call.rejection := by
  obtain ⟨blame, progress⟩ := call
  cases progress with
  | waiting key =>
    unfold release
    by_cases same : key = gate
    · simp [same, rejection]
    · simp [same]
  | arrived result => exact ⟨rfl, rfl⟩
  | observed result => exact ⟨rfl, rfl⟩

theorem reject_eq (message : String) (call : Call) :
    (call.reject message).blame = call.blame ∧
      (call.reject message).rejection = call.rejection := by
  obtain ⟨blame, progress⟩ := call
  cases progress <;> cases blame <;> exact ⟨rfl, rfl⟩

theorem blame_taken (call : Call) : call.taken.blame = call.blame := by
  obtain ⟨blame, progress⟩ := call
  cases progress <;> rfl

end Call

namespace Calls

def rejections (calls : Calls) : List Event :=
  calls.flatMap Call.rejection

theorem rejections_append (first rest : Calls) :
    rejections (first ++ rest) = first.rejections ++ rest.rejections :=
  List.flatMap_append

theorem Unobserved.rejections_eq_nil {calls : Calls} (fresh : calls.Unobserved) :
    calls.rejections = [] := by
  refine List.flatMap_eq_nil_iff.mpr fun call member => ?_
  have unobserved := fresh call member
  obtain ⟨blame, progress⟩ := call
  cases progress with
  | waiting gate => cases blame <;> rfl
  | arrived result => cases blame <;> rfl
  | observed result => exact absurd rfl (unobserved result)

theorem rejections_taken (calls : Calls) (id : CallId) :
    (calls[id]?.toList.flatMap Call.report ++ calls.rejections).Perm
      (rejections (calls.modify id Call.taken)) := by
  obtain ⟨rest, before, after⟩ := perm_modify_taken Call.rejection calls id
  refine (before.append_left _).trans (.trans ?_ after.symm)
  rw [← List.append_assoc]
  cases calls[id]? with
  | none => exact .refl _
  | some call => simp [Call.rejection_taken]

/-- Calls with the same sources and the same results were reported alike. -/
theorem rejections_congr {calls calls' : Calls}
    (blames : calls.map Call.blame = calls'.map Call.blame)
    (results : ∀ id < calls.length, calls.result? id = calls'.result? id) :
    calls.rejections = calls'.rejections := by
  have rejection_eq (calls : Calls) (id : CallId) (call : Call) (found : calls[id]? = some call) :
      call.rejection = ((calls.result? id).map fun result =>
        Call.rejection ⟨call.blame, .observed result⟩).getD [] := by
    unfold Call.rejection result?
    rw [found]
    obtain ⟨blame, progress⟩ := call
    cases progress with
    | waiting gate => cases blame <;> rfl
    | arrived result => cases blame <;> rfl
    | observed result => rfl
  have length : calls.length = calls'.length := by simpa using congrArg List.length blames
  refine congrArg List.flatten (List.ext_getElem? fun id => ?_)
  rw [List.getElem?_map, List.getElem?_map]
  by_cases inside : id < calls.length
  · have found := List.getElem?_eq_getElem inside
    have found' := List.getElem?_eq_getElem (length ▸ inside)
    have blame := congrArg (·[id]?) blames
    simp only [List.getElem?_map, found, found', Option.map_some, Option.some.injEq] at blame
    rw [found, found', Option.map_some, Option.map_some, rejection_eq calls id _ found,
      rejection_eq calls' id _ found', blame, results id inside]
  · rw [List.getElem?_eq_none (by omega), List.getElem?_eq_none (by omega)]

end Calls

namespace Journal

/-- What may become of a journal while results are awaited. -/
inductive Evolves (first : Journal) : Journal → Prop where
  | refl : Evolves first first
  | start {last : Journal} (before : Evolves first last) (blame : Option String) (reply : Reply) :
      Evolves first (last.start blame reply).2
  | release {last : Journal} (before : Evolves first last) (gate : String) (result : HostResult) :
      Evolves first (last.release gate result)
  | rejectWaiting {last : Journal} (before : Evolves first last) (message : String) :
      Evolves first (last.rejectWaiting message)
  | observe {last : Journal} (before : Evolves first last) (id : CallId) :
      Evolves first (last.observe id)

theorem Evolves.poll {first last : Journal} (before : Evolves first last) (ids : List CallId) :
    Evolves first (last.poll ids) := by
  induction ids generalizing last with
  | nil => exact before
  | cons id rest ih => exact ih (before.observe id)

/-- Between the two moments the rejections that were observed were reported, and nothing else was.
What was observed before stays as it was. -/
structure Faithful (earlier later : Journal) : Prop where
  keep : earlier.calls.Keep later.calls
  blames : earlier.calls.map Call.blame <+: later.calls.map Call.blame
  events : ∃ new, later.events = earlier.events ++ new ∧
    (new ++ earlier.calls.rejections).Perm later.calls.rejections

namespace Faithful

theorem refl (journal : Journal) : Faithful journal journal where
  keep := .refl _
  blames := List.prefix_rfl
  events := ⟨[], by simp⟩

theorem trans {first second third : Journal} (before : Faithful first second)
    (after : Faithful second third) : Faithful first third where
  keep := before.keep.trans after.keep
  blames := before.blames.trans after.blames
  events := by
    obtain ⟨new, events, reported⟩ := before.events
    obtain ⟨new', events', reported'⟩ := after.events
    refine ⟨new ++ new', by rw [events', events, List.append_assoc], ?_⟩
    rw [List.append_assoc]
    refine (List.perm_append_comm_assoc _ _ _).trans ((reported.append_left _).trans reported')

theorem length_le {earlier later : Journal} (faithful : Faithful earlier later) :
    earlier.calls.length ≤ later.calls.length := by
  simpa using faithful.blames.length_le

theorem map {change : Call → Call}
    (fixed : ∀ blame result, change ⟨blame, .observed result⟩ = ⟨blame, .observed result⟩)
    (same : ∀ call, (change call).blame = call.blame ∧ (change call).rejection = call.rejection)
    (journal : Journal) :
    Faithful journal { journal with calls := journal.calls.map change } where
  keep := .map fixed journal.calls
  blames := by
    rw [List.map_map]
    exact (List.map_congr_left fun call _ => (same call).1) ▸ List.prefix_rfl
  events := by
    refine ⟨[], (List.append_nil _).symm, ?_⟩
    show journal.calls.rejections.Perm (Calls.rejections (journal.calls.map change))
    rw [Calls.rejections, Calls.rejections, List.flatMap_map]
    simp only [same]
    exact .refl _

theorem start (journal : Journal) (blame : Option String) (reply : Reply) :
    Faithful journal (journal.start blame reply).2 where
  keep := journal.keep_start blame reply
  blames := by
    rw [Journal.start, List.map_append]
    exact List.prefix_append _ _
  events := by
    have fresh : Calls.Unobserved [⟨blame, .ofReply reply⟩] := by
      intro call member result observed
      obtain rfl := List.mem_singleton.mp member
      cases reply <;> cases observed
    refine ⟨[], (List.append_nil _).symm, ?_⟩
    rw [Journal.start, Calls.rejections_append, fresh.rejections_eq_nil, List.append_nil]
    exact .refl _

theorem observe (journal : Journal) (id : CallId) : Faithful journal (journal.observe id) where
  keep := journal.keep_observe id
  blames := by
    have same : (journal.observe id).calls.map Call.blame = journal.calls.map Call.blame := by
      rw [observe_eq]
      refine List.ext_getElem? fun other => ?_
      rw [List.getElem?_map, List.getElem?_map, List.getElem?_modify]
      cases journal.calls[other]? with
      | none => rfl
      | some call => by_cases here : id = other <;> simp [here, Call.blame_taken]
    rw [same]
  events := by
    rw [observe_eq]
    exact ⟨_, rfl, journal.calls.rejections_taken id⟩

end Faithful

theorem Evolves.faithful {first last : Journal} (evolves : Evolves first last) :
    Faithful first last := by
  induction evolves with
  | refl => exact .refl first
  | start _ blame reply ih => exact ih.trans (.start _ blame reply)
  | release _ gate result ih =>
    exact ih.trans (.map (fun _ _ => rfl) (Call.release_eq gate result) _)
  | rejectWaiting _ message ih =>
    exact ih.trans (.map (fun _ _ => rfl) (Call.reject_eq message) _)
  | observe _ id ih => exact ih.trans (.observe _ id)

end Journal

namespace Occurrence

/-- The failure of an expression as far as it is known, if its call has the given number. -/
def failure? (calls : Calls) (id : CallId) (o : Occurrence) : Option Failure :=
  match o.result with
  | .error failure => some failure
  | .ok (.value _) => none
  | .ok (.call _) =>
    match calls.result? id with
    | some (.error message) => some (.host message)
    | _ => none

/-- One report for each failure. The first call has the given number, and the others follow. -/
def reports (calls : Calls) : CallId → List Occurrence → List Event
  | _, [] => []
  | id, o :: rest =>
    (o.failure? calls id).toList.map (.expressionFailed o.source) ++
      reports calls (id + o.started.length) rest

/-- The failures that are known are those at once and the rejections of the own calls. -/
theorem perm_reports {calls own : Calls} {id : CallId} {occurrences : List Occurrence}
    (holds : calls.Holds id own)
    (blames : own.map Call.blame = (occurrences.flatMap started).map Call.blame) :
    (reports calls id occurrences).Perm (occurrences.flatMap reported ++ own.rejections) := by
  -- An expression that started a call takes the number and leaves the next one to the rest.
  induction occurrences generalizing id own with
  | nil =>
    obtain rfl : own = [] := List.map_eq_nil_iff.mp blames
    exact .refl _
  | cons o rest ih =>
    obtain ⟨source, result⟩ := o
    cases result with
    | error failure => exact (ih holds blames).cons _
    | ok evaluated =>
      cases evaluated with
      | value v => exact ih holds blames
      | call reply =>
        cases own with
        | nil => cases blames
        | cons call own =>
          obtain ⟨blame, others⟩ := List.cons.inj blames
          have here : calls[id]? = some call := holds 0 (Nat.zero_lt_succ _)
          have later : calls.Holds (id + 1) own := by
            intro k inside
            rw [Nat.add_assoc, Nat.add_comm 1 k]
            exact holds (k + 1) (Nat.succ_lt_succ inside)
          have first : ((failure? calls id ⟨source, .ok (.call reply)⟩).toList.map
              (Event.expressionFailed source)) = call.rejection := by
            obtain ⟨_, progress⟩ := call
            obtain rfl : _ = some source := blame
            simp only [failure?, Calls.result?, here]
            cases progress with
            | waiting gate => rfl
            | arrived result => rfl
            | observed result => cases result <;> rfl
          show ((failure? calls id ⟨source, .ok (.call reply)⟩).toList.map
            (Event.expressionFailed source) ++ reports calls (id + 1) rest).Perm
              (rest.flatMap reported ++ (call.rejection ++ Calls.rejections own))
          rw [first]
          exact ((ih later others).append_left _).trans (List.perm_append_comm_assoc _ _ _)

end Occurrence

namespace Journal

section

variable (start : Journal) (occurrences : List Occurrence) (later : Journal)

def Settles : Prop :=
  ∀ id, start.calls.length ≤ id → id < (start.enterAll occurrences).calls.length →
    later.calls.isObserved id = true

/-- The calls that the expressions started. -/
def ownCalls : Calls :=
  (later.calls.drop start.calls.length).take (occurrences.flatMap Occurrence.started).length

/-- The calls that were started before or after them. -/
def otherCalls : Calls :=
  later.calls.take start.calls.length ++
    later.calls.drop (start.enterAll occurrences).calls.length

theorem length_enterAll : (start.enterAll occurrences).calls.length =
    start.calls.length + (occurrences.flatMap Occurrence.started).length :=
  List.length_append

theorem rejections_own_append_other :
    (later.calls.rejections).Perm
      ((start.ownCalls occurrences later).rejections ++
        (start.otherCalls occurrences later).rejections) := by
  have split : later.calls.rejections =
      Calls.rejections (later.calls.take start.calls.length) ++
        ((start.ownCalls occurrences later).rejections ++
          Calls.rejections (later.calls.drop (start.enterAll occurrences).calls.length)) := by
    rw [← Calls.rejections_append, ← Calls.rejections_append, ownCalls, length_enterAll,
      ← List.drop_drop, List.take_append_drop, List.take_append_drop]
  rw [split, otherCalls, Calls.rejections_append]
  exact List.perm_append_comm_assoc _ _ _

/-- Since some expressions were entered, each of them that failed was reported once, and so was each
of the other calls that was observed to be rejected. -/
structure Accounts : Prop where
  events : (later.events ++ start.calls.rejections).Perm
    (start.events ++ Occurrence.reports later.calls start.calls.length occurrences ++
      (start.otherCalls occurrences later).rejections)
  /-- Nothing but the expressions was reported if nobody took up another call. -/
  alone : (∀ id, id < start.calls.length ∨ (start.enterAll occurrences).calls.length ≤ id →
      later.calls.result? id = start.calls.result? id) →
    later.events.Perm
      (start.events ++ Occurrence.reports later.calls start.calls.length occurrences)

end

namespace Faithful

variable {start later : Journal} {occurrences : List Occurrence}
  (faithful : (start.enterAll occurrences).Faithful later)
include faithful

theorem exists_blames : ∃ after, later.calls.map Call.blame = start.calls.map Call.blame ++
    ((occurrences.flatMap Occurrence.started).map Call.blame ++ after) := by
  obtain ⟨after, blames⟩ := faithful.blames
  refine ⟨after, ?_⟩
  rw [← blames, enterAll, List.map_append, List.append_assoc]

theorem blames_ownCalls : (start.ownCalls occurrences later).map Call.blame =
    (occurrences.flatMap Occurrence.started).map Call.blame := by
  obtain ⟨after, blames⟩ := faithful.exists_blames
  rw [ownCalls, List.map_take, List.map_drop, blames, List.drop_left' (by simp),
    List.take_left' (by simp)]

theorem perm_reports :
    (Occurrence.reports later.calls start.calls.length occurrences).Perm
      (occurrences.flatMap Occurrence.reported ++
        (start.ownCalls occurrences later).rejections) := by
  refine Occurrence.perm_reports ?_ faithful.blames_ownCalls
  intro k inside
  rw [ownCalls, List.length_take] at inside
  rw [ownCalls, List.getElem?_take_of_lt (by omega), List.getElem?_drop]

theorem rejections_otherCalls (quiet : ∀ id,
    id < start.calls.length ∨ (start.enterAll occurrences).calls.length ≤ id →
      later.calls.result? id = start.calls.result? id) :
    (start.otherCalls occurrences later).rejections = start.calls.rejections := by
  have enough := faithful.length_le
  rw [length_enterAll] at quiet enough
  have first : Calls.rejections (later.calls.take start.calls.length) = start.calls.rejections := by
    obtain ⟨after, blames⟩ := faithful.exists_blames
    apply Calls.rejections_congr
    · rw [List.map_take, blames, List.take_left' (by simp)]
    · intro id inside
      rw [List.length_take] at inside
      rw [← quiet id (by omega), Calls.result?, Calls.result?,
        List.getElem?_take_of_lt (by omega)]
  have last : Calls.Unobserved (later.calls.drop
      (start.calls.length + (occurrences.flatMap Occurrence.started).length)) := by
    intro call member result observed
    obtain ⟨k, found⟩ := List.getElem?_of_mem member
    rw [List.getElem?_drop] at found
    have same := quiet _ (Or.inr (Nat.le_add_right _ k))
    have beyond : start.calls.result?
        (start.calls.length + (occurrences.flatMap Occurrence.started).length + k) = none :=
      Calls.result?_eq_none_of_length_le (by omega)
    obtain ⟨blame, progress⟩ := call
    obtain rfl : progress = .observed result := observed
    rw [beyond, Calls.result?, found] at same
    cases same
  rw [otherCalls, length_enterAll, Calls.rejections_append, first, last.rejections_eq_nil,
    List.append_nil]

theorem accounts : start.Accounts occurrences later := by
  have fresh : Calls.Unobserved (occurrences.flatMap Occurrence.started) := by
    intro call member
    obtain ⟨o, _, inside⟩ := List.mem_flatMap.mp member
    exact o.unobserved_started call inside
  have before : (start.enterAll occurrences).calls.rejections = start.calls.rejections := by
    rw [enterAll, Calls.rejections_append, fresh.rejections_eq_nil, List.append_nil]
  obtain ⟨new, events, observed⟩ := faithful.events
  rw [before] at observed
  have later_eq : (new ++ start.calls.rejections).Perm
      ((start.ownCalls occurrences later).rejections ++
        (start.otherCalls occurrences later).rejections) :=
    observed.trans (rejections_own_append_other start occurrences later)
  have whole : (later.events ++ start.calls.rejections).Perm
      (start.events ++ Occurrence.reports later.calls start.calls.length occurrences ++
        (start.otherCalls occurrences later).rejections) := by
    rw [events, enterAll, List.append_assoc, List.append_assoc, List.append_assoc]
    refine List.Perm.append_left _ ?_
    refine (later_eq.append_left _).trans ?_
    rw [← List.append_assoc]
    exact faithful.perm_reports.symm.append_right _
  refine ⟨whole, fun quiet => ?_⟩
  rw [faithful.rejections_otherCalls quiet] at whole
  exact (List.perm_append_right_iff _).mp whole

end Faithful

end Journal

end LiveConfig
