import LiveConfig.Proofs.Rewriting.Renumbering
import LiveConfig.Proofs.Rewriting.Sources

set_option autoImplicit false

namespace LiveConfig

namespace Scope.MirrorsOn

variable {used : String → Prop} {scope scope' : Scope}

theorem draft_eq (mirrors : MirrorsOn used scope scope') (engine : Engine) (mode : Mode)
    (template : String) (mentioned : ∀ e, Template.Evaluates mode template e →
      ∀ name, Expr.Within (.name name) e → used name) :
    engine.draft scope mode template = engine.draft scope' mode template :=
  engine.draft_eq_of_sources fun source inside =>
    mirrors.tryEvaluate_eq engine fun e parsed => mentioned e ⟨source, inside, parsed⟩

/-- Calls that nobody has observed do not show, nor do the numbers of calls in the tree that is
being rewritten. -/
theorem grow {base base' : Calls} (mirrors : MirrorsOn used { scope with calls := base }
    { scope' with calls := base' }) {own : Calls} (unobserved : own.Unobserved) (tree : Partial) :
    MirrorsOn used
      { scope with output := some (tree.shift base.length), calls := base ++ own }
      { scope' with output := some (tree.shift base'.length), calls := base' ++ own } := by
  have grown (base : Calls) : Calls.result? (base ++ own) = base.result? :=
    Calls.result?_append unobserved base
  have shown (base : Calls) : Partial.shown (base ++ own) = Partial.shown base :=
    funext (Partial.shown_congr (grown base))
  have view (base : Calls) (env : Option Environment) : viewOf (base ++ own) env = viewOf base env := by
    cases env with
    | none => rfl
    | some env => exact view_congr (grown base) env
  refine ⟨mirrors.host, ?_, ?_, ?_, ?_⟩
  · intro name asked
    show (scope.binding? name).map (Partial.shown (base ++ own)) =
      (scope'.binding? name).map (Partial.shown (base' ++ own))
    rw [shown, shown]
    exact mirrors.bindings name asked
  · intro asked unbound
    show viewOf (base ++ own) scope.dynamics = viewOf (base' ++ own) scope'.dynamics
    rw [view, view]
    exact mirrors.vars asked unbound
  · intro asked unbound
    show viewOf (base ++ own) scope.statics = viewOf (base' ++ own) scope'.statics
    rw [view, view]
    exact mirrors.svars asked unbound
  · show some ((tree.shift base.length).toValue (base ++ own)) =
      some ((tree.shift base'.length).toValue (base' ++ own))
    rw [tree.toValue_shift, tree.toValue_shift]

end Scope.MirrorsOn

namespace Walk

/-- Walks that differ in the calls before them at most. -/
inductive Counterparts (base base' : Journal) : Walk × Journal → Walk × Journal → Prop where
  | intro (walk : Walk) (own : Journal) (unobserved : own.calls.Unobserved)
      (underway : walk.tree.Underway own.calls) :
      Counterparts base base' (walk.shift base.calls.length, base.append own)
        (walk.shift base'.calls.length, base'.append own)

variable {used : String → Prop} {scope scope' : Scope} {base base' : Journal}

theorem visit_shift (engine : Engine) (walk : Walk) (own : Journal) (leaf : Path × String) :
    let draft := engine.draft { scope with
      output := some (walk.tree.shift base.calls.length), calls := base.calls ++ own.calls }
      .structural leaf.2
    visit engine scope (walk.shift base.calls.length, base.append own) leaf =
      ((walk.write (own.enter draft).calls leaf.1
        (draft.outcome own.calls.length)).shift base.calls.length,
        base.append (own.enter draft)) := by
  have number : (base.append own).calls.length = base.calls.length + own.calls.length :=
    List.length_append
  rw [visit_eq, Journal.append_enter, number]
  dsimp only
  rw [Draft.outcome_add]
  exact congrArg (Prod.mk · _) (write_shift base.calls _ walk leaf.1 _)

theorem Counterparts.visit (engine : Engine) {state state' : Walk × Journal}
    (counterparts : Counterparts base base' state state')
    (mirrors : Scope.MirrorsOn used { scope with calls := base.calls }
      { scope' with calls := base'.calls }) {leaf : Path × String}
    (mentioned : ∀ e, Template.Evaluates .structural leaf.2 e →
      ∀ name, Expr.Within (.name name) e → used name) :
    Counterparts base base' (visit engine scope state leaf) (visit engine scope' state' leaf) := by
  cases counterparts with
  | intro walk own unobserved underway =>
    have drafted := (mirrors.grow unobserved walk.tree).draft_eq engine _ _ mentioned
    rw [visit_shift, visit_shift, drafted]
    generalize engine.draft _ .structural leaf.2 = draft
    exact .intro _ _ (unobserved.append draft.unobserved_started)
      (underway_write underway draft leaf.1)

theorem Counterparts.foldl (engine : Engine) {state state' : Walk × Journal}
    (counterparts : Counterparts base base' state state')
    (mirrors : Scope.MirrorsOn used { scope with calls := base.calls }
      { scope' with calls := base'.calls }) {leaves : List (Path × String)}
    (mentioned : ∀ leaf ∈ leaves, ∀ e, Template.Evaluates .structural leaf.2 e →
      ∀ name, Expr.Within (.name name) e → used name) :
    Counterparts base base' (leaves.foldl (Walk.visit engine scope) state)
      (leaves.foldl (Walk.visit engine scope') state') := by
  induction leaves generalizing state state' with
  | nil => exact counterparts
  | cons leaf rest ih =>
    obtain ⟨head, tail⟩ := List.forall_mem_cons.mp mentioned
    exact ih (counterparts.visit engine mirrors head) tail

/-- Whole walks in scopes that show the same for the names they read. -/
theorem counterparts_run (engine : Engine)
    (mirrors : Scope.MirrorsOn used { scope with calls := base.calls }
      { scope' with calls := base'.calls }) {tree : Value}
    (mentioned : ∀ e, tree.Embeds e → ∀ name, Expr.Within (.name name) e → used name) :
    Counterparts base base' (run engine scope tree base) (run engine scope' tree base') := by
  have landed : (Partial.ofValue tree).Underway [] := by
    intro d member
    rw [Partial.flying_ofValue] at member
    cases member
  have start : Counterparts base base' ({ tree := .ofValue tree }, base)
      ({ tree := .ofValue tree }, base') := by
    have first : Counterparts base base' _ _ :=
      .intro { tree := .ofValue tree } {} nofun landed
    rw [base.append_empty, base'.append_empty, shift, shift, Partial.shift_ofValue,
      Partial.shift_ofValue] at first
    exact first
  refine start.foldl engine mirrors fun leaf member e evaluated => ?_
  exact mentioned e ⟨leaf, member, Template.evaluates_structural_iff.mp evaluated⟩

end Walk

namespace Environment

/-- Entries that differ in the calls before them at most. -/
inductive Counterparts (base base' : Journal) :
    Outcome Value × Journal → Outcome Value × Journal → Prop where
  | intro (outcome : Outcome Value) (own : Journal) (unobserved : own.calls.Unobserved)
      (started : ∀ id ∈ outcome.calls, id < own.calls.length) :
      Counterparts base base' (outcome.shift base.calls.length, base.append own)
        (outcome.shift base'.calls.length, base'.append own)

theorem same_shift {base base' own : Calls} {outcome : Outcome Value}
    (started : ∀ id ∈ outcome.calls, id < own.length) (rest rest' : Calls) :
    ((Partial.ofOutcome own outcome).shift base.length).Same (base ++ (own ++ rest))
      (base' ++ (own ++ rest')) ((Partial.ofOutcome own outcome).shift base'.length) := by
  have here (base rest : Calls) {id : CallId} (inside : id < own.length) :
      (base ++ (own ++ rest))[base.length + id]? = own[id]? := by
    rw [List.getElem?_append_right (Nat.le_add_right _ _), Nat.add_sub_cancel_left,
      List.getElem?_append_left inside]
  cases landed : Partial.ofOutcome own outcome with
  | ready v => exact rfl
  -- An outcome lands as one value or as one leaf, never as an opened container.
  | array items | object fields =>
    cases outcome with
    | ready v => cases landed
    | pending d =>
      rw [Partial.ofOutcome, Partial.ofDeferred] at landed
      split at landed <;> cases landed
  | pending d =>
    have calls_eq : outcome.calls = d.calls := by
      cases outcome with
      | ready v => cases landed
      | pending e =>
        rw [Partial.ofOutcome, Partial.ofDeferred] at landed
        split at landed
        · cases landed
        · rw [← Partial.pending.inj landed]
          rfl
    rw [calls_eq] at started
    constructor
    · show (d.calls.map (base.length + ·)).map _ = (d.calls.map (base'.length + ·)).map _
      rw [List.map_map, List.map_map]
      refine List.map_congr_left fun id member => ?_
      exact (here base rest (started id member)).trans (here base' rest' (started id member)).symm
    · intro answers answers' same
      apply d.read_congr
      intro id member
      have mapped : (d.calls.map (base.length + ·)).map answers =
          (d.calls.map (base'.length + ·)).map answers' := same
      rw [List.map_map, List.map_map, List.map_inj_left] at mapped
      exact mapped id member

variable {used : String → Prop} {scope scope' : Scope} {base base' : Journal}

theorem counterparts_ready (base base' : Journal) (value : Value) :
    Counterparts base base' (.ready value, base) (.ready value, base') := by
  have first : Counterparts base base' _ _ := .intro (.ready value) {} nofun nofun
  rw [base.append_empty, base'.append_empty] at first
  exact first

theorem Counterparts.of_walk {state state' : Walk × Journal}
    (counterparts : Walk.Counterparts base base' state state') :
    Counterparts base base' (state.1.outcome state.2.calls, state.2)
      (state'.1.outcome state'.2.calls, state'.2) := by
  cases counterparts with
  | intro walk own unobserved underway =>
    have here := walk.outcome_shift base.calls own.calls
    have there := walk.outcome_shift base'.calls own.calls
    dsimp only [Journal.append]
    rw [here, there]
    refine .intro _ _ unobserved fun id waited => ?_
    unfold Walk.outcome at waited
    split at waited
    · cases waited
    · have member : id ∈ walk.tree.calls := waited
      rw [Partial.calls_eq_flatMap] at member
      obtain ⟨d, flies, inside⟩ := List.mem_flatMap.mp member
      exact (underway d flies).2 id inside

theorem counterparts_entry (engine : Engine)
    (mirrors : Scope.MirrorsOn used { scope with calls := base.calls }
      { scope' with calls := base'.calls }) {value : Value}
    (mentioned : ∀ name, value.Mentions name → used name) :
    Counterparts base base' (evaluateEntry engine scope value base)
      (evaluateEntry engine scope' value base') := by
  have walked (tree : Value) (mentioned : ∀ e, tree.Embeds e →
      ∀ name, Expr.Within (.name name) e → used name) :
      Counterparts base base' (engine.evaluateStructure scope tree base)
        (engine.evaluateStructure scope' tree base') :=
    .of_walk (Walk.counterparts_run engine mirrors mentioned)
  cases value with
  | text template =>
    have drafted := mirrors.draft_eq engine .declaration template
      fun e evaluated name inside => mentioned name ⟨e, evaluated, inside⟩
    have first (base : Journal) (draft : Draft) :
        (draft.outcome base.calls.length, base.enter draft) =
          ((draft.outcome 0).shift base.calls.length, base.append (Journal.enter {} draft)) := by
      rw [← Draft.outcome_add]
      rfl
    rw [evaluateEntry, evaluateEntry, engine.evaluateTemplate_eq, engine.evaluateTemplate_eq,
      drafted, first, first]
    refine .intro _ _ (Draft.unobserved_started _) fun id waited => ?_
    rw [Draft.calls_outcome, List.mem_range'_1, Nat.zero_add] at waited
    exact waited.2
  | array items =>
    exact walked _ fun e embedded name inside => mentioned name ⟨e, embedded, inside⟩
  | object fields =>
    exact walked _ fun e embedded name inside => mentioned name ⟨e, embedded, inside⟩
  | null => exact counterparts_ready base base' _
  | bool b => exact counterparts_ready base base' _
  | number x => exact counterparts_ready base base' _

end Environment

end LiveConfig
