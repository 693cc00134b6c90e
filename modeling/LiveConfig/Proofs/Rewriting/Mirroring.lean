import LiveConfig.Proofs.Rewriting.Foretelling

set_option autoImplicit false

namespace LiveConfig

/-- What a tree shows: whether it is settled, and its value as far as that is known. -/
def Partial.shown (calls : Calls) (tree : Partial) : Bool × Value :=
  (tree.isSettled calls, tree.toValue calls)

/-- Every leaf under way waits for started calls that are not all observed. -/
def Partial.Underway (calls : Calls) (tree : Partial) : Prop :=
  ∀ d ∈ tree.flying, d.isSettled calls = false ∧ ∀ id ∈ d.calls, id < calls.length

namespace Partial

variable {calls : Calls} {tree : Partial}

theorem underway_ready (calls : Calls) (value : Value) : (Partial.ready value).Underway calls :=
  List.forall_mem_nil _

theorem shown_congr {calls' : Calls} (same : calls.result? = calls'.result?) (tree : Partial) :
    tree.shown calls = tree.shown calls' := by
  rw [shown, shown, settled_congr same, toValue_congr same]

theorem shown_foretell (underway : tree.Underway calls) (answers : Answers) :
    (tree.foretell answers).shown [] = tree.shown calls := by
  have unsettled (d : Deferred Value) (member : d ∈ tree.flying) : d.isSettled calls = false :=
    (underway d member).1
  rw [shown, shown, isSettled_foretell unsettled, toValue_foretell unsettled]

theorem shown_of_calls_eq_nil (idle : tree.calls = []) (calls calls' : Calls) :
    tree.shown calls = tree.shown calls' := by
  have settled (calls : Calls) : tree.isSettled calls = true := by
    rw [← allObserved_calls, idle]
    rfl
  have same : tree.read calls.answers = tree.read calls'.answers := by
    apply tree.read_congr
    intro id member
    rw [idle] at member
    cases member
  rw [shown, shown, settled, settled, ← read_of_isSettled calls tree (settled calls), same,
    read_of_isSettled calls' tree (settled calls')]

theorem Underway.calls_eq_nil_iff (underway : tree.Underway calls) :
    tree.calls = [] ↔ tree.flying = [] := by
  rw [calls_eq_flatMap, List.flatMap_eq_nil_iff]
  constructor
  · intro idle
    apply List.eq_nil_iff_forall_not_mem.mpr
    intro d member
    have unsettled := (underway d member).1
    rw [Deferred.isSettled, idle d member] at unsettled
    cases unsettled
  · intro landed
    rw [landed]
    exact List.forall_mem_nil _

theorem calls_foretell_eq_nil_iff (answers : Answers) (tree : Partial) :
    (tree.foretell answers).calls = [] ↔ tree.flying = [] := by
  rw [calls_eq_flatMap, flying_foretell, List.flatMap_map, List.flatMap_eq_nil_iff]
  constructor
  · intro idle
    apply List.eq_nil_iff_forall_not_mem.mpr
    intro d member
    cases idle d member
  · intro landed
    rw [landed]
    exact List.forall_mem_nil _

end Partial

namespace Environment

/-- The variables with nothing left of the calls but what they will come to. -/
def foretell (answers : Answers) (env : Environment) : Environment :=
  env.mapEntries (Partial.foretell answers)

/-- Every variable is settled or under way. -/
def Underway (calls : Calls) (env : Environment) : Prop :=
  ∀ entry ∈ env.entries, entry.Underway calls

theorem mem_entries_of_find? {env : Environment} {name : String} {entry : Partial}
    (found : env.find? name = some entry) : entry ∈ env.entries :=
  List.mem_append_right _ (List.mem_map_of_mem (Fields.mem_of_find? found))

theorem entries_mapEntries (f : Partial → Partial) (env : Environment) :
    (env.mapEntries f).entries = env.entries.map f := by
  simp [entries, mapEntries, Fields.mapValues]

theorem calls_of_mem_entries {env : Environment} (idle : env.calls = []) {entry : Partial}
    (member : entry ∈ env.entries) : entry.calls = [] :=
  List.flatMap_eq_nil_iff.mp idle entry member

theorem find?_mapEntries (f : Partial → Partial) (env : Environment) (name : String) :
    (env.mapEntries f).find? name = (env.find? name).map f :=
  Fields.find?_mapValues f name env.named

theorem mapEntries_mapEntries (f g : Partial → Partial) (env : Environment) :
    (env.mapEntries f).mapEntries g = env.mapEntries (g ∘ f) := by
  simp [mapEntries, Fields.mapValues]

theorem mapEntries_id (env : Environment) : env.mapEntries id = env := by
  simp [mapEntries, Fields.mapValues]

theorem foretell_eq_self {calls : Calls} {env : Environment} (underway : env.Underway calls)
    (idle : env.calls = []) (answers : Answers) : env.foretell answers = env := by
  refine (env.mapEntries_congr _ id ?_).trans env.mapEntries_id
  intro entry member
  apply Partial.foretell_eq_self
  exact (underway entry member).calls_eq_nil_iff.mp (calls_of_mem_entries idle member)

theorem read_foretell (answers others : Answers) (env : Environment) :
    (env.foretell answers).read others = env.read answers := by
  rw [read, foretell, mapEntries_mapEntries, read]
  apply mapEntries_congr
  intro entry _
  exact congrArg Partial.ready (entry.read_foretell answers others)

theorem calls_foretell_eq_nil_iff {calls : Calls} {env : Environment}
    (underway : env.Underway calls) (answers : Answers) :
    (env.foretell answers).calls = [] ↔ env.calls = [] := by
  rw [Environment.calls, Environment.calls, List.flatMap_eq_nil_iff, List.flatMap_eq_nil_iff,
    foretell, entries_mapEntries, List.forall_mem_map]
  refine forall₂_congr fun entry member => ?_
  rw [Partial.calls_foretell_eq_nil_iff, (underway entry member).calls_eq_nil_iff]

theorem read_outcome_foretell {calls : Calls} {env : Environment} (underway : env.Underway calls)
    (answers others : Answers) :
    (env.foretell answers).outcome.read others = env.outcome.read answers := by
  have same := calls_foretell_eq_nil_iff underway answers
  unfold outcome
  by_cases idle : env.calls = []
  · rw [if_pos (List.isEmpty_iff.mpr idle), if_pos (List.isEmpty_iff.mpr (same.mpr idle))]
    exact foretell_eq_self underway idle answers
  · rw [if_neg fun empty => idle (List.isEmpty_iff.mp empty),
      if_neg fun empty => idle (same.mp (List.isEmpty_iff.mp empty))]
    exact env.read_foretell answers others

theorem view_mapEntries (env : Environment) (f : Partial → Partial) (calls calls' : Calls)
    (same : ∀ entry ∈ env.entries, (f entry).toValue calls' = entry.toValue calls) :
    (env.mapEntries f).view calls' = env.view calls := by
  have numbered_eq (start : Nat) (entries : List Partial)
      (listed : ∀ entry ∈ entries, entry ∈ env.entries) :
      numbered calls' start (entries.map f) = numbered calls start entries := by
    induction entries generalizing start with
    | nil => rfl
    | cons entry rest ih =>
      obtain ⟨head, tail⟩ := List.forall_mem_cons.mp listed
      rw [List.map_cons, numbered, numbered, same entry head, ih (start + 1) tail]
  have named_eq : Fields.mapValues (Partial.toValue calls') (Fields.mapValues f env.named) =
      Fields.mapValues (Partial.toValue calls) env.named := by
    rw [Fields.mapValues, Fields.mapValues, Fields.mapValues, List.map_map]
    apply List.map_congr_left
    intro field member
    have inside : field.2 ∈ env.entries :=
      List.mem_append_right _ (List.mem_map_of_mem member)
    exact congrArg (Prod.mk field.1) (same field.2 inside)
  have positional_eq := numbered_eq 0 env.positional fun entry member =>
    List.mem_append_left _ member
  simp only [view, mapEntries, positional_eq, named_eq]

end Environment

namespace Scope

/-- Scopes in which every name stands for the same. -/
structure Mirrors (scope scope' : Scope) : Prop where
  host : scope.host = scope'.host
  bindings : ∀ name, (scope.binding? name).map (Partial.shown scope.calls) =
    (scope'.binding? name).map (Partial.shown scope'.calls)
  vars : viewOf scope.calls scope.dynamics = viewOf scope'.calls scope'.dynamics
  svars : viewOf scope.calls scope.statics = viewOf scope'.calls scope'.statics
  output : scope.outputValue? = scope'.outputValue?

/-- The scope with its dynamic variables and its tree replaced, read with other calls. -/
def mapEntries (f : Partial → Partial) (calls : Calls) (scope : Scope) : Scope where
  host := scope.host
  statics := scope.statics
  dynamics := scope.dynamics.map (Environment.mapEntries f)
  output := scope.output.map f
  calls := calls

theorem binding?_mapEntries (f : Partial → Partial) (calls : Calls) (scope : Scope)
    (name : String) : (scope.mapEntries f calls).binding? name =
      ((scope.dynamics.bind (·.find? name)).map f).orElse
        fun _ => scope.statics.bind (·.find? name) := by
  unfold binding? mapEntries
  cases scope.dynamics with
  | none => rfl
  | some env =>
    show Option.orElse ((env.mapEntries f).find? name) _ = _
    rw [env.find?_mapEntries]
    rfl

/-- What shows the same may be put in the place of variables and tree. Static variables have landed
before a scope is made of them. -/
theorem mirrors_mapEntries (scope : Scope) (f : Partial → Partial) (calls : Calls)
    (statics : ∀ env, scope.statics = some env → env.calls = [])
    (dynamics : ∀ env, scope.dynamics = some env → ∀ entry ∈ env.entries,
      (f entry).shown calls = entry.shown scope.calls)
    (output : ∀ tree, scope.output = some tree → (f tree).shown calls = tree.shown scope.calls) :
    scope.Mirrors (scope.mapEntries f calls) where
  host := rfl
  bindings name := by
    rw [binding?_mapEntries]
    unfold binding?
    cases found : scope.dynamics.bind (·.find? name) with
    | some entry =>
      obtain ⟨env, held, there⟩ := Option.bind_eq_some_iff.mp found
      have same := dynamics env held entry (Environment.mem_entries_of_find? there)
      exact congrArg some same.symm
    | none =>
      show (scope.statics.bind (·.find? name)).map _ = (scope.statics.bind (·.find? name)).map _
      cases found : scope.statics.bind (·.find? name) with
      | none => rfl
      | some entry =>
        obtain ⟨env, held, there⟩ := Option.bind_eq_some_iff.mp found
        have idle := Environment.calls_of_mem_entries (statics env held)
          (Environment.mem_entries_of_find? there)
        exact congrArg some (Partial.shown_of_calls_eq_nil idle scope.calls calls)
  vars := by
    cases held : scope.dynamics with
    | none => simp only [mapEntries, held, Option.map_none]; rfl
    | some env =>
      have same := env.view_mapEntries f scope.calls calls fun entry member =>
        congrArg Prod.snd (dynamics env held entry member)
      simp only [mapEntries, held, Option.map_some]
      exact same.symm
  svars := by
    cases held : scope.statics with
    | none => simp only [mapEntries, held]; rfl
    | some env =>
      have same := env.view_mapEntries id scope.calls calls fun entry member =>
          congrArg Prod.snd (Partial.shown_of_calls_eq_nil
            (Environment.calls_of_mem_entries (statics env held) member) calls scope.calls)
      rw [env.mapEntries_id] at same
      simp only [mapEntries, held]
      exact same.symm
  output := by
    cases held : scope.output with
    | none => simp only [outputValue?, mapEntries, held, Option.map_none]
    | some tree =>
      have same := congrArg Prod.snd (output tree held)
      simp only [outputValue?, mapEntries, held, Option.map_some]
      exact congrArg some same.symm

/-- The scope with nothing left of the calls but what they will come to. -/
def foretell (answers : Answers) (scope : Scope) : Scope where
  host := scope.host
  statics := scope.statics
  dynamics := scope.dynamics.map (Environment.foretell answers)
  output := scope.output.map (Partial.foretell answers)

theorem mirrors_foretell (scope : Scope) (answers : Answers)
    (statics : ∀ env, scope.statics = some env → env.calls = [])
    (dynamics : ∀ env, scope.dynamics = some env → env.Underway scope.calls)
    (output : ∀ tree, scope.output = some tree → tree.Underway scope.calls) :
    scope.Mirrors (scope.foretell answers) :=
  scope.mirrors_mapEntries (Partial.foretell answers) [] statics
    (fun env held entry member => Partial.shown_foretell (dynamics env held entry member) answers)
    fun tree held => Partial.shown_foretell (output tree held) answers

/-- Scopes in which the names that are used stand for the same. -/
structure MirrorsOn (used : String → Prop) (scope scope' : Scope) : Prop where
  host : scope.host = scope'.host
  bindings : ∀ name, used name → (scope.binding? name).map (Partial.shown scope.calls) =
    (scope'.binding? name).map (Partial.shown scope'.calls)
  vars : used "vars" → scope.binding? "vars" = none →
    viewOf scope.calls scope.dynamics = viewOf scope'.calls scope'.dynamics
  svars : used "svars" → scope.binding? "svars" = none →
    viewOf scope.calls scope.statics = viewOf scope'.calls scope'.statics
  output : scope.outputValue? = scope'.outputValue?

theorem Mirrors.on {scope scope' : Scope} (mirrors : Mirrors scope scope')
    (used : String → Prop) : MirrorsOn used scope scope' where
  host := mirrors.host
  bindings name _ := mirrors.bindings name
  vars _ _ := mirrors.vars
  svars _ _ := mirrors.svars
  output := mirrors.output

namespace MirrorsOn

variable {used : String → Prop} {scope scope' : Scope} (mirrors : MirrorsOn used scope scope')
  {name : String}
include mirrors

theorem binding?_eq_none_iff (asked : used name) :
    scope.binding? name = none ↔ scope'.binding? name = none := by
  have same := mirrors.bindings name asked
  constructor
  · intro missing
    rw [missing] at same
    exact Option.map_eq_none_iff.mp same.symm
  · intro missing
    rw [missing] at same
    exact Option.map_eq_none_iff.mp same

theorem builtinName_eq (asked : used name) (unbound : scope.binding? name = none) :
    scope.builtinName name = scope'.builtinName name := by
  unfold builtinName
  by_cases vars : name = "vars"
  · subst vars
    simp only [mirrors.host, mirrors.vars asked unbound, if_true]
  by_cases svars : name = "svars"
  · subst svars
    simp only [mirrors.host, mirrors.svars asked unbound, vars, if_false, if_true]
  by_cases output : name = "output"
  · have same := mirrors.output
    unfold outputValue? at same
    cases here : scope.output with
    | none =>
      cases there : scope'.output with
      | none => simp only [mirrors.host, vars, svars, if_false]
      | some tree => simp [here, there] at same
    | some tree =>
      cases there : scope'.output with
      | none => simp [here, there] at same
      | some tree' =>
        simp only [here, there, Option.map_some, Option.some.injEq] at same
        simp only [mirrors.host, vars, svars, if_false, same]
  · simp only [mirrors.host, vars, svars, output, if_false]

theorem lookup_eq (asked : used name) : scope.lookup name = scope'.lookup name := by
  have same := mirrors.bindings name asked
  unfold lookup
  cases here : scope.binding? name with
  | none =>
    rw [(mirrors.binding?_eq_none_iff asked).mp here]
    exact mirrors.builtinName_eq asked here
  | some entry =>
    cases there : scope'.binding? name with
    | none => rw [here, there] at same; cases same
    | some entry' =>
      rw [here, there] at same
      obtain ⟨settled, value⟩ := Prod.mk.inj (Option.some.inj same)
      simp only [settled, value]

theorem agree {e : Expr} (mentioned : ∀ name, Expr.Within (.name name) e → used name)
    (registry : Registry) : Expr.Agree e registry registry scope scope' where
  lookup name inside := mirrors.lookup_eq (mentioned name inside)
  call _ _ _ := rfl

theorem tryEvaluate_eq (engine : Engine) {source : String}
    (mentioned : ∀ e, Expr.parse source = .ok e → ∀ name, Expr.Within (.name name) e → used name) :
    engine.tryEvaluate scope source = engine.tryEvaluate scope' source := by
  unfold Engine.tryEvaluate
  cases parsed : Expr.parse source with
  | error e => rfl
  | ok e =>
    exact Expr.evalTail_congr e (mirrors.agree (mentioned e parsed) engine.registry) fun _ _ _ =>
      rfl

end MirrorsOn

theorem Mirrors.tryEvaluate_eq {scope scope' : Scope} (mirrors : Mirrors scope scope')
    (engine : Engine) (source : String) :
    engine.tryEvaluate scope source = engine.tryEvaluate scope' source :=
  (mirrors.on fun _ => True).tryEvaluate_eq engine fun _ _ _ _ => trivial

end Scope

/-- The sources of the expressions that are evaluated for a string. -/
def Template.sourcesIn (mode : Mode) (template : String) : List String :=
  match classify template with
  | .plain =>
    match mode with
    | .structural => []
    | .declaration => [template]
  | kind => kind.sources

theorem Engine.draft_eq_of_sources (engine : Engine) {scope scope' : Scope} {mode : Mode}
    {template : String} (same : ∀ source ∈ Template.sourcesIn mode template,
      engine.tryEvaluate scope source = engine.tryEvaluate scope' source) :
    engine.draft scope mode template = engine.draft scope' mode template := by
  have piece_eq (fallback : Value) {source : String}
      (inside : source ∈ Template.sourcesIn mode template) :
      engine.piece scope fallback source = engine.piece scope' fallback source := by
    unfold piece
    rw [same source inside]
  unfold draft
  unfold Template.sourcesIn at piece_eq
  cases classified : Template.classify template with
  | literal rest => rfl
  | whole source =>
    rw [classified] at piece_eq
    exact congrArg Draft.single (piece_eq _ (List.mem_singleton_self source))
  | interpolated segments =>
    rw [classified] at piece_eq
    refine congrArg Draft.joined (List.map_congr_left ?_)
    intro segment member
    cases segment with
    | text s => rfl
    | expr source => exact piece_eq _ (List.mem_filterMap.mpr ⟨_, member, rfl⟩)
  | plain =>
    rw [classified] at piece_eq
    cases mode with
    | structural => rfl
    | declaration => exact congrArg Draft.single (piece_eq _ (List.mem_singleton_self template))

theorem Scope.Mirrors.draft_eq {scope scope' : Scope} (mirrors : scope.Mirrors scope')
    (engine : Engine) (mode : Mode) (template : String) :
    engine.draft scope mode template = engine.draft scope' mode template :=
  engine.draft_eq_of_sources fun source _ => mirrors.tryEvaluate_eq engine source

end LiveConfig
