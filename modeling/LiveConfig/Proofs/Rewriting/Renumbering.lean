import LiveConfig.Proofs.Rewriting.Forecast

set_option autoImplicit false

/- Evaluations behind other calls. Calls are numbered in the order in which they are started, so an
evaluation gives them other numbers when there were calls before it. Nothing else is different:
what it comes to is what it comes to in an empty journal, with all numbers moved up. -/

namespace LiveConfig

theorem Deferred.eq_of_read {α : Type} {d e : Deferred α} (calls : d.calls = e.calls)
    (read : ∀ answers, d.read answers = e.read answers) : d = e := by
  obtain ⟨dCalls, dRead, _⟩ := d
  obtain ⟨eCalls, eRead, _⟩ := e
  obtain rfl : dCalls = eCalls := calls
  obtain rfl : dRead = eRead := funext read
  rfl

section

variable {α β : Type} (n : Nat)

/-- The result with `n` calls before its own. -/
def Deferred.shift (d : Deferred α) : Deferred α where
  calls := d.calls.map (n + ·)
  read answers := d.read fun id => answers (n + id)
  read_congr _ _ agree := d.read_congr _ _ fun _ member => agree _ (List.mem_map_of_mem member)

namespace Outcome

def shift : Outcome α → Outcome α
  | .ready value => .ready value
  | .pending d => .pending (d.shift n)

theorem calls_shift (o : Outcome α) : (o.shift n).calls = o.calls.map (n + ·) := by
  cases o <;> rfl

theorem read_shift (answers : Answers) (o : Outcome α) :
    (o.shift n).read answers = o.read fun id => answers (n + id) := by
  cases o <;> rfl

theorem shift_map (f : α → β) (o : Outcome α) : (o.map f).shift n = (o.shift n).map f := by
  cases o <;> rfl

theorem shift_all (outcomes : List (Outcome α)) :
    (all outcomes).shift n = all (outcomes.map (shift n)) := by
  have ready_shift (o : Outcome α) : (o.shift n).ready? = o.ready? := by cases o <;> rfl
  have values : (outcomes.map (shift n)).mapM ready? = outcomes.mapM ready? := by
    induction outcomes with
    | nil => rfl
    | cons o rest ih => rw [List.map_cons, List.mapM_cons, List.mapM_cons, ready_shift, ih]
  unfold all
  rw [values]
  cases outcomes.mapM ready? with
  | some values => rfl
  | none =>
    refine congrArg Outcome.pending (Deferred.eq_of_read ?_ ?_)
    · show (outcomes.flatMap calls).map (n + ·) = (outcomes.map (shift n)).flatMap calls
      rw [List.map_flatMap, List.flatMap_map]
      simp only [calls_shift]
    · intro answers
      show outcomes.map _ = (outcomes.map (shift n)).map (read answers)
      rw [List.map_map]
      exact List.map_congr_left fun o _ => (read_shift n answers o).symm

end Outcome

theorem Deferred.shift_shift (m : Nat) (d : Deferred α) :
    (d.shift m).shift n = d.shift (n + m) := by
  refine Deferred.eq_of_read ?_ fun answers => ?_
  · show (d.calls.map (m + ·)).map (n + ·) = d.calls.map (n + m + ·)
    simp only [List.map_map, Function.comp_def, Nat.add_assoc]
  · show d.read (fun id => answers (n + (m + id))) = d.read fun id => answers (n + m + id)
    simp only [Nat.add_assoc]

namespace Partial

/-- The tree with `n` calls before its own. -/
def shift (tree : Partial) : Partial :=
  tree.mapFlying (Deferred.shift n)

theorem calls_shift (tree : Partial) : (tree.shift n).calls = tree.calls.map (n + ·) := by
  rw [calls_eq_flatMap, calls_eq_flatMap, shift, flying_mapFlying, List.flatMap_map,
    List.map_flatMap]
  rfl

theorem read_shift (answers : Answers) (tree : Partial) :
    (tree.shift n).read answers = tree.read fun id => answers (n + id) :=
  read_mapFlying fun _ _ => rfl

theorem shift_shift (m : Nat) (tree : Partial) : (tree.shift m).shift n = tree.shift (n + m) := by
  rw [shift, shift, mapFlying_mapFlying, shift]
  exact mapFlying_congr fun d _ => d.shift_shift n m

theorem shift_ofValue (v : Value) : (ofValue v).shift n = ofValue v := by
  apply mapFlying_eq_self
  rw [flying_ofValue]
  exact List.forall_mem_nil _

theorem shift_zero (tree : Partial) : tree.shift 0 = tree := by
  apply mapFlying_eq_self
  intro d _
  refine Deferred.eq_of_read ?_ fun answers => ?_
  · show d.calls.map (0 + ·) = d.calls
    simp only [Nat.zero_add, List.map_id']
  · show d.read (fun id => answers (0 + id)) = d.read answers
    simp only [Nat.zero_add]

theorem shift_deferred (tree : Partial) : tree.deferred.shift n = (tree.shift n).deferred :=
  Deferred.eq_of_read (tree.calls_shift n).symm fun answers => (tree.read_shift n answers).symm

end Partial

namespace Walk

def shift (walk : Walk) : Walk where
  tree := walk.tree.shift n
  awaited := walk.awaited.map fun place => (place.1, place.2.shift n)

theorem isDone_shift (walk : Walk) : (walk.shift n).isDone = walk.isDone := by
  unfold isDone shift
  cases walk.awaited <;> rfl

theorem shift_zero (walk : Walk) : walk.shift 0 = walk := by
  have awaited : walk.awaited.map (fun place => (place.1, place.2.shift 0)) = walk.awaited := by
    conv => rhs; rw [← List.map_id walk.awaited]
    refine List.map_congr_left fun place _ => ?_
    have same := Partial.pending.inj ((Partial.pending place.2).shift_zero)
    exact congrArg (Prod.mk place.1) same
  rw [shift, walk.tree.shift_zero, awaited]

end Walk

def Environment.shift (env : Environment) : Environment :=
  env.mapEntries (Partial.shift n)

end

section

variable (base own : Calls)

theorem Calls.result?_append_add (id : CallId) :
    Calls.result? (base ++ own) (base.length + id) = own.result? id := by
  simp only [Calls.result?, List.getElem?_append_right (Nat.le_add_right _ _),
    Nat.add_sub_cancel_left]

namespace Deferred

variable {α : Type} (d : Deferred α)

theorem isSettled_shift : (d.shift base.length).isSettled (base ++ own) = d.isSettled own := by
  simp only [isSettled, Calls.allObserved, shift, List.all_map, Function.comp_def,
    Calls.isObserved, Calls.result?_append_add]
  rfl

theorem value?_shift : (d.shift base.length).value? (base ++ own) = d.value? own := by
  have read : (d.shift base.length).read (Calls.answers (base ++ own)) = d.read own.answers := by
    refine d.read_congr _ _ fun id _ => ?_
    rw [Calls.answers, Calls.result?_append_add, Calls.answers]
  rw [value?, value?, d.isSettled_shift base own, read]

end Deferred

namespace Partial

variable (tree : Partial)

theorem isSettled_shift : (tree.shift base.length).isSettled (base ++ own) = tree.isSettled own :=
  isSettled_mapFlying fun d _ => d.isSettled_shift base own

theorem toValue_shift : (tree.shift base.length).toValue (base ++ own) = tree.toValue own :=
  toValue_mapFlying fun d _ => d.value?_shift base own

theorem shown_shift : (tree.shift base.length).shown (base ++ own) = tree.shown own := by
  rw [shown, shown, isSettled_shift, toValue_shift]

theorem ofOutcome_shift (o : Outcome Value) :
    ofOutcome (base ++ own) (o.shift base.length) = (ofOutcome own o).shift base.length := by
  cases o with
  | ready value => rfl
  | pending d =>
    show ofDeferred (base ++ own) (d.shift base.length) = (ofDeferred own d).shift base.length
    unfold ofDeferred
    rw [d.value?_shift]
    cases d.value? own <;> rfl

end Partial

namespace Walk

variable (walk : Walk)

theorem write_shift (path : Path) (o : Outcome Value) :
    (walk.shift base.length).write (base ++ own) path (o.shift base.length) =
      (walk.write own path o).shift base.length := by
  cases o with
  | ready value =>
    have tree_eq := walk.tree.mapFlying_set (Deferred.shift base.length) path (.ready value)
    exact congrArg (Walk.mk · _) tree_eq.symm
  | pending d =>
    have tree_eq := walk.tree.mapFlying_set (Deferred.shift base.length) path (.ofDeferred own d)
    have node := Partial.ofOutcome_shift base own (.pending d)
    have awaited : (walk.shift base.length).awaited ++ [(path, d.shift base.length)] =
        (walk.awaited ++ [(path, d)]).map fun place => (place.1, place.2.shift base.length) := by
      rw [List.map_append]
      rfl
    show Walk.mk _ ((walk.shift base.length).awaited ++ [(path, d.shift base.length)]) = _
    rw [awaited]
    refine congrArg (Walk.mk · _) (Eq.trans ?_ tree_eq.symm)
    exact congrArg (walk.tree.shift base.length |>.set path) node

theorem outcome_shift :
    (walk.shift base.length).outcome (base ++ own) = (walk.outcome own).shift base.length := by
  unfold outcome
  rw [isDone_shift]
  cases walk.isDone with
  | true => exact congrArg Outcome.ready (walk.tree.toValue_shift base own)
  | false => exact congrArg Outcome.pending (walk.tree.shift_deferred base.length).symm

end Walk

end

theorem Piece.outcome_add (n id : CallId) (piece : Piece) :
    piece.outcome (n + id) = (piece.outcome id).shift n := by
  cases piece <;> rfl

theorem Piece.outcomes_add (n id : CallId) (pieces : List Piece) :
    outcomes (n + id) pieces = (outcomes id pieces).map (Outcome.shift n) := by
  induction pieces generalizing id with
  | nil => rfl
  | cons piece rest ih =>
    rw [outcomes, outcomes, List.map_cons, piece.outcome_add, Nat.add_assoc, ih]

theorem Draft.outcome_add (n id : CallId) (draft : Draft) :
    draft.outcome (n + id) = (draft.outcome id).shift n := by
  cases draft with
  | single piece => exact piece.outcome_add n id
  | joined pieces =>
    rw [outcome, outcome, Piece.outcomes_add, Outcome.shift_map, Outcome.shift_all]

namespace Journal

/-- One journal continued by another. -/
def append (base own : Journal) : Journal where
  calls := base.calls ++ own.calls
  events := base.events ++ own.events

theorem append_enter (base own : Journal) (draft : Draft) :
    (base.append own).enter draft = base.append (own.enter draft) := by
  simp only [append, enter, List.append_assoc]

theorem append_empty (base : Journal) : base.append {} = base := by
  simp only [append, List.append_nil]

theorem empty_append (own : Journal) : append {} own = own := rfl

end Journal

end LiveConfig
