import LiveConfig.Proofs.Rewriting.DocumentOrder
import LiveConfig.Proofs.Rewriting.Entering
import LiveConfig.Proofs.Rewriting.Mirroring

set_option autoImplicit false

namespace LiveConfig

/-- More calls are started, and none of them is observed. -/
def Calls.Extends (first last : Calls) : Prop :=
  ∃ fresh : Calls, last = first ++ fresh ∧ fresh.Unobserved

/-- What calls come to when the gates bring the given results. -/
def Calls.verdicts (opens : String → HostResult) (calls : Calls) : Answers :=
  fun id => (calls[id]?.map (Call.verdict opens)).getD (.ok .null)

theorem Journal.Entered.extends {first last : Journal} (entered : first.Entered last) :
    first.calls.Extends last.calls :=
  entered.calls_eq

namespace Calls.Extends

variable {first last : Calls}

theorem result?_eq (grown : first.Extends last) : last.result? = first.result? := by
  obtain ⟨fresh, rfl, unobserved⟩ := grown
  exact Calls.result?_append unobserved first

theorem length_le (grown : first.Extends last) : first.length ≤ last.length := by
  obtain ⟨fresh, rfl, _⟩ := grown
  rw [List.length_append]
  exact Nat.le_add_right _ _

theorem verdicts_eq (grown : first.Extends last) (opens : String → HostResult) {id : CallId}
    (started : id < first.length) : last.verdicts opens id = first.verdicts opens id := by
  obtain ⟨fresh, rfl, _⟩ := grown
  rw [verdicts, verdicts, List.getElem?_append_left started]

theorem underway (grown : first.Extends last) {tree : Partial} (flies : tree.Underway first) :
    tree.Underway last := by
  intro d member
  obtain ⟨unsettled, started⟩ := flies d member
  refine ⟨(isSettled_congr grown.result?_eq d).trans unsettled, ?_⟩
  intro id waited
  exact Nat.lt_of_lt_of_le (started id waited) grown.length_le

theorem foretell_eq (grown : first.Extends last) (opens : String → HostResult) {tree : Partial}
    (flies : tree.Underway first) :
    tree.foretell (last.verdicts opens) = tree.foretell (first.verdicts opens) := by
  apply Partial.foretell_congr
  intro d member
  apply d.read_congr
  intro id waited
  exact grown.verdicts_eq opens ((flies d member).2 id waited)

end Calls.Extends

section

variable (engine : Engine) (opens : String → HostResult)

/-- What a string comes to: its value, or the promise of it. -/
def Draft.promise (draft : Draft) : Outcome Value :=
  if draft.started.isEmpty then .ready (draft.verdict opens).1
  else .pending (.bound (draft.verdict opens).1)

theorem Draft.answered_enter (draft : Draft) (journal : Journal) (k : Nat) (call : Call)
    (found : draft.started[k]? = some call) :
    (journal.enter draft).calls.verdicts opens (journal.calls.length + k) = call.verdict opens := by
  have here : (journal.enter draft).calls[journal.calls.length + k]? = some call := by
    rw [Journal.enter, List.getElem?_append_right (Nat.le_add_right _ _), Nat.add_sub_cancel_left]
    exact found
  rw [Calls.verdicts, here]
  rfl

theorem Draft.value?_enter (draft : Draft) (journal : Journal) {d : Deferred Value}
    (pending : draft.outcome journal.calls.length = .pending d) :
    d.value? (journal.enter draft).calls = none := by
  apply Draft.value?_of_pending pending
  rw [Journal.result?_enter]
  exact Calls.result?_eq_none_of_length_le (Nat.le_refl _)

theorem Draft.isPending_promise (draft : Draft) :
    (draft.promise opens).isPending = !draft.started.isEmpty := by
  unfold promise
  cases draft.started.isEmpty <;> rfl

theorem Draft.value?_promise (draft : Draft) {d : Deferred Value}
    (pending : draft.promise opens = .pending d) : d.value? [] = none := by
  unfold promise at pending
  split at pending
  · cases pending
  · rw [← Outcome.pending.inj pending]
    rfl

theorem Draft.foretell_node (draft : Draft) (journal : Journal) :
    (draft.outcome journal.calls.length).node.Underway (journal.enter draft).calls ∧
      (draft.outcome journal.calls.length).node.foretell
        ((journal.enter draft).calls.verdicts opens) = (draft.promise opens).node := by
  have flag := draft.isPending_outcome journal.calls.length
  have numbers := draft.calls_outcome journal.calls.length
  have value := draft.read_outcome opens journal.calls.length (draft.answered_enter opens journal)
  cases outcome : draft.outcome journal.calls.length with
  | ready v =>
    rw [outcome] at flag value
    have none : draft.started.isEmpty = true := by simpa [Outcome.isPending] using flag.symm
    refine ⟨Partial.underway_ready _ v, ?_⟩
    rw [Draft.promise, if_pos none, ← value]
    rfl
  | pending d =>
    rw [outcome] at flag numbers value
    have some : ¬ draft.started.isEmpty = true := by simpa [Outcome.isPending] using flag.symm
    constructor
    · intro e member
      obtain rfl : e = d := List.mem_singleton.mp member
      constructor
      · have missing := draft.value?_enter journal outcome
        by_contra settled
        rw [Deferred.value?, if_pos (by simpa using settled)] at missing
        cases missing
      · intro id waited
        rw [show e.calls = _ from numbers, List.mem_range'_1] at waited
        rw [Journal.enter, List.length_append]
        exact waited.2
    · rw [Draft.promise, if_neg some, ← value]
      rfl

/-- A scope for strings: its static variables have landed, its dynamic ones may be under way, and no
tree is being rewritten yet. -/
structure Scope.Steady (calls : Calls) (scope : Scope) : Prop where
  statics : ∀ env, scope.statics = some env → env.calls = []
  dynamics : ∀ env, scope.dynamics = some env → env.Underway calls
  output : scope.output = none

theorem Scope.Steady.extend {first last : Calls} {scope : Scope} (steady : scope.Steady first)
    (grown : first.Extends last) : scope.Steady last where
  statics := steady.statics
  dynamics env held entry member := grown.underway (steady.dynamics env held entry member)
  output := steady.output

theorem Environment.foretell_eq {first last : Calls} {env : Environment}
    (underway : env.Underway first) (grown : first.Extends last) :
    env.foretell (last.verdicts opens) = env.foretell (first.verdicts opens) :=
  env.mapEntries_congr _ _ fun entry member => grown.foretell_eq opens (underway entry member)

theorem Scope.Steady.foretell_eq {first last : Calls} {scope : Scope} (steady : scope.Steady first)
    (grown : first.Extends last) :
    scope.foretell (last.verdicts opens) = scope.foretell (first.verdicts opens) := by
  have dynamics : scope.dynamics.map (Environment.foretell (last.verdicts opens)) =
      scope.dynamics.map (Environment.foretell (first.verdicts opens)) := by
    cases held : scope.dynamics with
    | none => rfl
    | some env => exact congrArg some (env.foretell_eq opens (steady.dynamics env held) grown)
  simp only [foretell, dynamics, steady.output, Option.map_none]

namespace Walk

/-- Writes what a string promises to come to. -/
def foresee (scope : Scope) (walk : Walk) (leaf : Path × String) : Walk :=
  let draft := engine.draft { scope with output := some walk.tree, calls := [] } .structural leaf.2
  walk.write [] leaf.1 (draft.promise opens)

/-- What the strings of a tree promise to come to. -/
def forecast (scope : Scope) (tree : Value) : Walk :=
  (tree.strings []).foldl (foresee engine opens scope) { tree := .ofValue tree }

/-- A walk that is what was forecast. -/
structure Foretold (calls : Calls) (walk forecast : Walk) : Prop where
  underway : walk.tree.Underway calls
  tree_eq : walk.tree.foretell (calls.verdicts opens) = forecast.tree
  done_eq : walk.isDone = forecast.isDone

variable {engine opens} {scope : Scope} {walk forecast : Walk} {journal : Journal}

theorem isDone_write (walk : Walk) {calls : Calls} {path : Path} {outcome : Outcome Value} :
    (walk.write calls path outcome).isDone = (walk.isDone && !outcome.isPending) := by
  cases outcome with
  | ready v => simp [write, isDone, Outcome.isPending]
  | pending d => simp [write, isDone, Outcome.isPending]

/-- The next string sees on the way what is foreseen of it. -/
theorem Foretold.mirrors (foretold : Foretold opens journal.calls walk forecast)
    (steady : scope.Steady journal.calls) :
    Scope.Mirrors { scope with output := some walk.tree, calls := journal.calls }
      { scope.foretell (journal.calls.verdicts opens) with
        output := some forecast.tree, calls := [] } := by
  have same := Scope.mirrors_foretell
    { scope with output := some walk.tree, calls := journal.calls }
    (journal.calls.verdicts opens) steady.statics steady.dynamics (by
      intro tree held
      rw [← Option.some.inj held]
      exact foretold.underway)
  rw [← foretold.tree_eq]
  exact same

theorem underway_write (underway : walk.tree.Underway journal.calls) (draft : Draft) (path : Path) :
    (walk.write (journal.enter draft).calls path (draft.outcome journal.calls.length)).tree.Underway
      (journal.enter draft).calls := by
  have grown : journal.calls.Extends (journal.enter draft).calls :=
    ⟨draft.started, rfl, draft.unobserved_started⟩
  have new := (draft.foretell_node (fun _ => .ok .null) journal).1
  rw [write_eq walk path fun d pending => draft.value?_enter journal pending]
  intro d member
  rcases Partial.mem_flying_set member with old | added
  · exact grown.underway underway d old
  · exact new d added

theorem Foretold.visit (engine : Engine) (foretold : Foretold opens journal.calls walk forecast)
    (steady : scope.Steady journal.calls) (leaf : Path × String) :
    Foretold opens (visit engine scope (walk, journal) leaf).2.calls
      (visit engine scope (walk, journal) leaf).1
      (foresee engine opens (scope.foretell (journal.calls.verdicts opens)) forecast leaf) := by
  have drafted := (foretold.mirrors steady).draft_eq engine .structural leaf.2
  have foreseen : foresee engine opens (scope.foretell (journal.calls.verdicts opens)) forecast
      leaf = forecast.write [] leaf.1 ((engine.draft { scope with
        output := some walk.tree, calls := journal.calls } .structural leaf.2).promise opens) := by
    rw [drafted]
    rfl
  rw [visit_eq, foreseen]
  generalize engine.draft _ .structural leaf.2 = draft
  have grown : journal.calls.Extends (journal.enter draft).calls :=
    ⟨draft.started, rfl, draft.unobserved_started⟩
  refine ⟨underway_write foretold.underway draft leaf.1, ?_, ?_⟩
  · have landing := (draft.foretell_node opens journal).2
    rw [write_eq walk leaf.1 fun d pending => draft.value?_enter journal pending,
      write_eq forecast leaf.1 fun d pending => draft.value?_promise opens pending]
    show (walk.tree.set leaf.1 _).foretell _ = _
    rw [Partial.foretell_set, grown.foretell_eq opens foretold.underway, foretold.tree_eq, landing]
  · rw [isDone_write, isDone_write, foretold.done_eq, draft.isPending_outcome,
      draft.isPending_promise]

theorem foretold_foldl (leaves : List (Path × String))
    (foretold : Foretold opens journal.calls walk forecast) (steady : scope.Steady journal.calls) :
    let last := leaves.foldl (Walk.visit engine scope) (walk, journal)
    Foretold opens last.2.calls last.1 (leaves.foldl
      (foresee engine opens (scope.foretell (journal.calls.verdicts opens))) forecast) := by
  induction leaves generalizing walk forecast journal with
  | nil => exact foretold
  | cons leaf rest ih =>
    have entered := engine.entered_evaluateTemplate { scope with output := some walk.tree }
      .structural leaf.2 journal
    have grown : journal.calls.Extends (Walk.visit engine scope (walk, journal) leaf).2.calls :=
      entered.extends
    have whole := ih (foretold.visit engine steady leaf) (steady.extend grown)
    rw [steady.foretell_eq opens grown] at whole
    exact whole

/-- A walk comes to its forecast, whatever journal it is made in. -/
theorem foretold_run (engine : Engine) (opens : String → HostResult)
    (steady : scope.Steady journal.calls) (tree : Value) :
    Foretold opens (run engine scope tree journal).2.calls (run engine scope tree journal).1
      (Walk.forecast engine opens (scope.foretell (journal.calls.verdicts opens)) tree) := by
  have landed := Partial.flying_ofValue tree
  apply foretold_foldl _ _ steady
  refine ⟨?_, Partial.foretell_eq_self landed _, rfl⟩
  intro d member
  rw [landed] at member
  cases member

end Walk

/-- An answer for those who do not read it. -/
def Answers.unread : Answers :=
  fun _ => .ok .null

namespace Environment

/-- What an entry of the dynamic tier promises to come to. -/
def foreseeEntry (scope : Scope) (value : Value) : Partial :=
  match value with
  | .text template =>
    ((engine.draft { scope with calls := [] } .declaration template).promise opens).node
  | .array items => landing (Walk.forecast engine opens scope (.array items))
  | .object fields => landing (Walk.forecast engine opens scope (.object fields))
  | value => .ready value
where
  landing (walk : Walk) : Partial :=
    (Partial.ofOutcome [] (walk.outcome [])).foretell .unread

def foresee (host : HostState) (statics : Option Environment) (soFar : Environment)
    (entry : Option String × Value) : Environment :=
  let built := foreseeEntry engine opens (entryScope host statics soFar) entry.2
  match entry.1 with
  | none => soFar.push built
  | some name => soFar.insert name built

/-- What the dynamic variables promise to come to. -/
def forecast (host : HostState) (statics : Option Environment)
    (globals locals : Option Declaration) : Environment :=
  (order (Merged.merge globals locals)).foldl (foresee engine opens host statics)
    { tier := .dynamic }

variable {engine opens} {scope : Scope} {journal : Journal}

theorem ofOutcome_outcome (walk : Walk) (calls : Calls) :
    Partial.ofOutcome calls (walk.outcome calls) =
      if walk.isDone || walk.tree.isSettled calls then .ready (walk.tree.toValue calls)
      else .pending walk.tree.deferred := by
  unfold Walk.outcome
  cases done : walk.isDone with
  | true => rfl
  | false =>
    rw [if_neg Bool.false_ne_true, Partial.ofOutcome, Partial.ofDeferred, Partial.value?_deferred]
    cases walk.tree.isSettled calls <;> rfl

theorem foretold_landing {calls : Calls} {walk forecast : Walk}
    (foretold : walk.Foretold opens calls forecast) :
    (Partial.ofOutcome calls (walk.outcome calls)).Underway calls ∧
      (Partial.ofOutcome calls (walk.outcome calls)).foretell (calls.verdicts opens) =
        foreseeEntry.landing forecast := by
  have shown := Partial.shown_foretell foretold.underway (calls.verdicts opens)
  rw [foretold.tree_eq] at shown
  obtain ⟨settled, value⟩ := Prod.mk.inj shown
  rw [foreseeEntry.landing, ofOutcome_outcome, ofOutcome_outcome, foretold.done_eq, settled, value]
  by_cases landed : (forecast.isDone || walk.tree.isSettled calls) = true
  · rw [if_pos landed, if_pos landed]
    exact ⟨Partial.underway_ready _ _, rfl⟩
  · rw [if_neg landed, if_neg landed]
    constructor
    · intro d member
      obtain rfl : d = walk.tree.deferred := List.mem_singleton.mp member
      constructor
      · show calls.allObserved walk.tree.calls = false
        rw [Partial.allObserved_calls]
        exact (Bool.or_eq_false_iff.mp (Bool.not_eq_true _ ▸ landed)).2
      · intro id waited
        have flies : id ∈ walk.tree.flying.flatMap Deferred.calls :=
          walk.tree.calls_eq_flatMap ▸ waited
        obtain ⟨d, member, inside⟩ := List.mem_flatMap.mp flies
        exact (foretold.underway d member).2 id inside
    · have read : forecast.tree.read .unread = walk.tree.read (calls.verdicts opens) := by
        rw [← foretold.tree_eq, Partial.read_foretell]
      exact congrArg (fun value => Partial.pending (.bound value)) read.symm

theorem ofOutcome_eq_node {calls : Calls} {outcome : Outcome Value}
    (flying : ∀ d, outcome = .pending d → d.value? calls = none) :
    Partial.ofOutcome calls outcome = outcome.node := by
  cases outcome with
  | ready v => rfl
  | pending d =>
    rw [Partial.ofOutcome, Partial.ofDeferred, flying d rfl]
    rfl

theorem foretold_entry (engine : Engine) (opens : String → HostResult)
    (steady : scope.Steady journal.calls) (value : Value) :
    let evaluated := evaluateEntry engine scope value journal
    let built := Partial.ofOutcome evaluated.2.calls evaluated.1
    built.Underway evaluated.2.calls ∧
      built.foretell (evaluated.2.calls.verdicts opens) =
        foreseeEntry engine opens (scope.foretell (journal.calls.verdicts opens)) value := by
  cases value with
  | text template =>
    have mirrors : Scope.Mirrors { scope with calls := journal.calls }
        (scope.foretell (journal.calls.verdicts opens)) :=
      Scope.mirrors_foretell { scope with calls := journal.calls } _ steady.statics
        steady.dynamics fun tree held => by
          rw [steady.output] at held
          cases held
    have evaluated := engine.evaluateTemplate_eq scope .declaration template journal
    have foreseen : foreseeEntry engine opens (scope.foretell (journal.calls.verdicts opens))
        (.text template) = ((engine.draft { scope with calls := journal.calls } .declaration
          template).promise opens).node := by
      rw [mirrors.draft_eq engine .declaration template]
      rfl
    rw [foreseen, evaluateEntry, evaluated]
    generalize engine.draft _ .declaration template = draft
    have landed : Partial.ofOutcome (journal.enter draft).calls
        (draft.outcome journal.calls.length) = (draft.outcome journal.calls.length).node :=
      ofOutcome_eq_node fun d pending => draft.value?_enter journal pending
    dsimp only
    rw [landed]
    exact draft.foretell_node opens journal
  | array items => exact foretold_landing (Walk.foretold_run engine opens steady (.array items))
  | object fields => exact foretold_landing (Walk.foretold_run engine opens steady (.object fields))
  | null => exact ⟨Partial.underway_ready _ _, rfl⟩
  | bool b => exact ⟨Partial.underway_ready _ _, rfl⟩
  | number x => exact ⟨Partial.underway_ready _ _, rfl⟩

theorem foretell_push (answers : Answers) (env : Environment) (entry : Partial) :
    (env.push entry).foretell answers = (env.foretell answers).push (entry.foretell answers) := by
  simp only [foretell, mapEntries, push, List.map_append, List.map_cons, List.map_nil]

theorem foretell_insert (answers : Answers) (env : Environment) (name : String) (entry : Partial) :
    (env.insert name entry).foretell answers =
      (env.foretell answers).insert name (entry.foretell answers) := by
  simp only [foretell, mapEntries, insert, Fields.mapValues_put]

theorem Underway.push {calls : Calls} {env : Environment} {entry : Partial}
    (underway : env.Underway calls) (new : entry.Underway calls) :
    (env.push entry).Underway calls := by
  intro other member
  rcases List.mem_append.mp member with positional | named
  · rcases List.mem_append.mp positional with old | last
    · exact underway other (List.mem_append_left _ old)
    · rw [List.mem_singleton.mp last]
      exact new
  · exact underway other (List.mem_append_right _ named)

theorem Underway.insert {calls : Calls} {env : Environment} {name : String} {entry : Partial}
    (underway : env.Underway calls) (new : entry.Underway calls) :
    (env.insert name entry).Underway calls := by
  intro other member
  rcases List.mem_append.mp member with positional | named
  · exact underway other (List.mem_append_left _ positional)
  · obtain ⟨field, listed, rfl⟩ := List.mem_map.mp named
    refine Fields.forall_put (P := Partial.Underway calls) ?_ new field listed
    intro old kept
    exact underway old.2 (List.mem_append_right _ (List.mem_map_of_mem kept))

/-- Dynamic variables that are what was forecast. -/
structure Foretold (opens : String → HostResult) (calls : Calls) (env forecast : Environment) :
    Prop where
  tier : env.tier = .dynamic
  underway : env.Underway calls
  env_eq : env.foretell (calls.verdicts opens) = forecast

variable {host : HostState} {statics : Environment} {soFar forecast : Environment}

theorem Foretold.extend (foretold : Foretold opens journal.calls soFar forecast)
    (landed : statics.calls = []) (entry : Option String × Value) :
    Foretold opens (extend engine host (some statics) (soFar, journal) entry).2.calls
      (extend engine host (some statics) (soFar, journal) entry).1
      (foresee engine opens host (some statics) forecast entry) := by
  have scope_eq (env : Environment) (dynamic : env.tier = .dynamic) :
      entryScope host (some statics) env =
        { host, statics := some statics, dynamics := some env } := by
    rw [entryScope, dynamic]
  have dynamic : forecast.tier = .dynamic := by
    rw [← foretold.env_eq]
    exact foretold.tier
  -- The entry sees earlier ones that may be under way, and static ones that are not.
  have steady : (entryScope host (some statics) soFar).Steady journal.calls := by
    rw [scope_eq soFar foretold.tier]
    refine ⟨?_, ?_, rfl⟩
    · intro env held
      rw [← Option.some.inj held]
      exact landed
    · intro env held
      rw [← Option.some.inj held]
      exact foretold.underway
  have foreseen : (entryScope host (some statics) soFar).foretell (journal.calls.verdicts opens) =
      entryScope host (some statics) forecast := by
    rw [scope_eq soFar foretold.tier, scope_eq forecast dynamic, ← foretold.env_eq]
    rfl
  obtain ⟨new, new_eq⟩ := foretold_entry engine opens steady entry.2
  rw [foreseen] at new_eq
  have grown : journal.calls.Extends (evaluateEntry engine (entryScope host (some statics) soFar)
      entry.2 journal).2.calls :=
    (entered_evaluateEntry engine (entryScope host (some statics) soFar) entry.2 journal).extends
  have old : soFar.Underway _ := fun entry member => grown.underway (foretold.underway entry member)
  have old_eq := (soFar.foretell_eq opens foretold.underway grown).trans foretold.env_eq
  obtain ⟨name, value⟩ := entry
  cases name with
  | none =>
    refine ⟨foretold.tier, old.push new, ?_⟩
    rw [foresee, ← new_eq, ← old_eq]
    exact foretell_push _ _ _
  | some name =>
    refine ⟨foretold.tier, old.insert new, ?_⟩
    rw [foresee, ← new_eq, ← old_eq]
    exact foretell_insert _ _ _ _

theorem foretold_foldl (landed : statics.calls = []) (entries : List (Option String × Value))
    (foretold : Foretold opens journal.calls soFar forecast) :
    let last := entries.foldl (extend engine host (some statics)) (soFar, journal)
    Foretold opens last.2.calls last.1
      (entries.foldl (foresee engine opens host (some statics)) forecast) := by
  induction entries generalizing soFar forecast journal with
  | nil => exact foretold
  | cons entry rest ih => exact ih (foretold.extend landed entry)

/-- Dynamic variables come to their forecast, whatever journal they are built in. -/
theorem foretold_build (engine : Engine) (opens : String → HostResult) (host : HostState)
    (landed : statics.calls = []) (globals locals : Option Declaration)
    (journal : Journal) :
    let built := build engine host .dynamic (some statics) globals locals journal
    Foretold opens built.2.calls built.1
      (Environment.forecast engine opens host (some statics) globals locals) :=
  foretold_foldl landed _ ⟨rfl, List.forall_mem_nil _, rfl⟩

end Environment

end

end LiveConfig
