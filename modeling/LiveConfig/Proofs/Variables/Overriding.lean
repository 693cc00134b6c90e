import LiveConfig.Proofs.Rewriting.Counterparts
import LiveConfig.Proofs.Variables.Building

set_option autoImplicit false

/- Local variables beside global ones. A local variable that overrides a global one is evaluated in
the place of the global one, so it sees those local variables only that have their places before
it. As long as it reads no others, the global declaration changes nothing about the local
variables. -/

namespace LiveConfig

/-- The names that every scope has, `vars` and `svars` apart. -/
def Scope.builtins : List String := ["states", "user", "hass", "output"]

namespace Declaration

/-- The expressions of each entry read entries before it and what every scope has. -/
def SelfContained (fields : Fields Value) : Prop :=
  ∀ before name value after, fields = before ++ (name, value) :: after →
    ∀ x, value.Mentions x → x ∈ Fields.names before ∨ x ∈ Scope.builtins

/-- The local entries that an overriding entry reads override global entries before its own. -/
def OverridesInOrder (globals locals : Fields Value) : Prop :=
  ∀ before name value after, locals = before ++ (name, value) :: after →
    ∀ earlier later, Fields.names globals = earlier ++ name :: later →
      ∀ x ∈ Fields.names before, value.Mentions x → x ∈ earlier

end Declaration

namespace Environment

/-- A variable that came to the same in two builds, behind different calls. -/
inductive Paired (name : String) : Environment × Journal → Environment × Journal → Prop where
  | intro {env env' : Environment} {journal journal' : Journal} {outcome : Outcome Value}
      (base base' own rest rest' : Calls) (started : ∀ id ∈ outcome.calls, id < own.length)
      (found : env.find? name = some ((Partial.ofOutcome own outcome).shift base.length))
      (found' : env'.find? name = some ((Partial.ofOutcome own outcome).shift base'.length))
      (calls_eq : journal.calls = base ++ (own ++ rest))
      (calls_eq' : journal'.calls = base' ++ (own ++ rest')) (unobserved : rest.Unobserved)
      (unobserved' : rest'.Unobserved) : Paired name (env, journal) (env', journal')

namespace Paired

variable {name : String} {state state' later later' : Environment × Journal}

theorem same (paired : Paired name state state') : ∃ node node',
    state.1.find? name = some node ∧ state'.1.find? name = some node' ∧
      node.Same state.2.calls state'.2.calls node' := by
  cases paired with
  | intro base base' own rest rest' started found found' calls_eq calls_eq' =>
    refine ⟨_, _, found, found', ?_⟩
    rw [calls_eq, calls_eq']
    exact same_shift started rest rest'

theorem shown (paired : Paired name state state') :
    (state.1.find? name).map (Partial.shown state.2.calls) =
      (state'.1.find? name).map (Partial.shown state'.2.calls) := by
  cases paired with
  | @intro _ _ _ _ outcome base base' own rest rest' started found found' calls_eq calls_eq'
      unobserved unobserved' =>
    have here {base rest : Calls} (unobserved : rest.Unobserved) :
        ((Partial.ofOutcome own outcome).shift base.length).shown (base ++ (own ++ rest)) =
          (Partial.ofOutcome own outcome).shown own := by
      rw [Partial.shown_shift]
      exact Partial.shown_congr (Calls.result?_append unobserved own) _
    rw [found, found', calls_eq, calls_eq', Option.map_some, Option.map_some, here unobserved,
      here unobserved']

theorem extend (paired : Paired name state state') (kept : later.1.find? name = state.1.find? name)
    (kept' : later'.1.find? name = state'.1.find? name) (grown : state.2.Entered later.2)
    (grown' : state'.2.Entered later'.2) : Paired name later later' := by
  obtain ⟨fresh, calls, unobserved⟩ := grown.calls_eq
  obtain ⟨fresh', calls', unobserved'⟩ := grown'.calls_eq
  cases paired with
  | intro _ _ _ _ _ started found found' calls_eq calls_eq' before before' =>
    rw [calls_eq, List.append_assoc, List.append_assoc] at calls
    rw [calls_eq', List.append_assoc, List.append_assoc] at calls'
    exact .intro _ _ _ _ _ started (kept.trans found) (kept'.trans found') calls calls'
      (before.append unobserved) (before'.append unobserved')

end Paired

/-- Before a new name come all global names and the local ones before it; before an overriding name
come the global names before it. -/
theorem names_earlier {globals locals merged : Fields Value}
    (names : Fields.names merged = Fields.names globals ++
      (Fields.names locals).filter fun name => name ∉ Fields.names globals)
    (distinct : Fields.Distinct merged) {before after earlier later : Fields Value} {name : String}
    {value : Value} (here : locals = before ++ (name, value) :: after)
    (there : merged = earlier ++ (name, value) :: later) :
    (name ∉ Fields.names globals ∧ Fields.names earlier = Fields.names globals ++
        (Fields.names before).filter fun name => name ∉ Fields.names globals) ∨
      ∃ rest, Fields.names globals = Fields.names earlier ++ name :: rest := by
  have absent : name ∉ Fields.names earlier := Fields.notMem_of_split (there ▸ distinct)
  have split : Fields.names merged = Fields.names earlier ++ name :: Fields.names later := by
    rw [there]
    simp [Fields.names]
  have nodup : (Fields.names merged).Nodup := distinct
  have unique {first rest : List String} (listed : Fields.names merged = first ++ name :: rest) :
      first = Fields.names earlier := by
    refine Fields.append_cons_unique ?_ absent (listed.symm.trans split)
    rw [listed, List.nodup_append] at nodup
    exact fun member => nodup.2.2 name member name List.mem_cons_self rfl
  by_cases known : name ∈ Fields.names globals
  · obtain ⟨first, rest, global⟩ := List.append_of_mem known
    have same := unique (names.trans (by rw [global, List.append_assoc]; rfl))
    exact Or.inr ⟨rest, same ▸ global⟩
  · have locals_eq : Fields.names locals =
        Fields.names before ++ name :: Fields.names after := by
      rw [here]
      simp [Fields.names]
    have same := unique (names.trans (by
      rw [locals_eq, List.filter_append, List.filter_cons_of_pos (by simpa using known),
        ← List.append_assoc]))
    exact Or.inl ⟨known, same.symm⟩

/-- Named entries in the order of their evaluation. -/
def namedOrder (fields : Fields Value) : List (Option String × Value) :=
  fields.map fun field => (some field.1, field.2)

theorem filterMap_namedOrder (fields : Fields Value) :
    (namedOrder fields).filterMap Prod.fst = Fields.names fields := by
  simp [namedOrder, List.filterMap_map, Fields.names]

section

variable (engine : Engine) (host : HostState) (tier : Tier) (statics : Option Environment)
  (journal : Journal)

/-- The variables and the journal after some named entries. -/
def buildNamed (fields : Fields Value) : Environment × Journal :=
  buildEntries engine host tier statics journal (namedOrder fields)

theorem build_named (globals : Option Declaration) (locals : Fields Value)
    (unnumbered : Declaration.positionalEntries globals = []) :
    build engine host tier statics globals (some (.named locals)) journal =
      buildNamed engine host tier statics journal
        (Merged.merge globals (some (.named locals))).named := by
  have positional := Merged.positional_merge globals (some (.named locals))
  rw [unnumbered] at positional
  have order_eq : order (Merged.merge globals (some (.named locals))) =
      namedOrder (Merged.merge globals (some (.named locals))).named := by
    rw [order, positional]
    rfl
  rw [build, order_eq]
  rfl

variable (before after : Fields Value) {name : String}

theorem find?_buildNamed_append (distinct : Fields.Distinct (before ++ after))
    (member : name ∈ Fields.names before) :
    (buildNamed engine host tier statics journal (before ++ after)).1.find? name =
      (buildNamed engine host tier statics journal before).1.find? name := by
  have split : namedOrder (before ++ after) = namedOrder before ++ namedOrder after :=
    List.map_append
  rw [Fields.Distinct, Fields.names, List.map_append, List.nodup_append] at distinct
  rw [buildNamed, split]
  apply find?_buildEntries_append
  rw [filterMap_namedOrder]
  exact fun other => distinct.2.2 name member name other rfl

theorem find?_buildNamed_of_notMem {fields : Fields Value} (distinct : Fields.Distinct fields)
    (absent : name ∉ Fields.names fields) :
    (buildNamed engine host tier statics journal fields).1.find? name = none := by
  have arranged : Arranged (namedOrder fields) := arranged_order { named := fields } distinct
  rw [buildNamed, find?_buildEntries_eq_none_iff _ _ _ _ _ arranged, filterMap_namedOrder]
  exact absent

theorem entered_buildNamed : (buildNamed engine host tier statics journal before).2.Entered
    (buildNamed engine host tier statics journal (before ++ after)).2 := by
  have split : namedOrder (before ++ after) = namedOrder before ++ namedOrder after :=
    List.map_append
  rw [buildNamed, buildNamed, split]
  exact entered_buildEntries engine host tier statics journal _

theorem entered_start (fields : Fields Value) :
    journal.Entered (buildNamed engine host tier statics journal fields).2 :=
  entered_buildNamed engine host tier statics journal [] fields

theorem paired_append {first first' : Fields Value} (rest rest' : Fields Value)
    (paired : Paired name (buildNamed engine host tier statics journal first)
      (buildNamed engine host tier statics journal first'))
    (distinct : Fields.Distinct (first ++ rest)) (distinct' : Fields.Distinct (first' ++ rest'))
    (member : name ∈ Fields.names first) (member' : name ∈ Fields.names first') :
    Paired name (buildNamed engine host tier statics journal (first ++ rest))
      (buildNamed engine host tier statics journal (first' ++ rest')) :=
  paired.extend (find?_buildNamed_append engine host tier statics journal first rest distinct member)
    (find?_buildNamed_append engine host tier statics journal first' rest' distinct' member')
    (entered_buildNamed engine host tier statics journal first rest)
    (entered_buildNamed engine host tier statics journal first' rest')

theorem binding?_entryScope (env : Environment) (name : String) :
    (entryScope host statics env).binding? name = (env.find? name).or (match env.tier with
      | .static => none
      | .dynamic => statics.bind (·.find? name)) := by
  cases tier : env.tier with
  | static => simp [entryScope, Scope.binding?, tier]
  | dynamic =>
    cases found : env.find? name with
    | none => simp [entryScope, Scope.binding?, tier, found]
    | some entry => simp [entryScope, Scope.binding?, tier, found]

/-- Scopes with variables that came to the same, where all other names stand for what every scope
has. -/
theorem mirrors_of_paired {used : String → Prop} {state state' : Environment × Journal}
    (tiers : state.1.tier = state'.1.tier) (grown : journal.Entered state.2)
    (grown' : journal.Entered state'.2)
    (each : ∀ x, used x → Paired x state state' ∨
      state.1.find? x = none ∧ state'.1.find? x = none ∧ x ∈ Scope.builtins) :
    Scope.MirrorsOn used { entryScope host statics state.1 with calls := state.2.calls }
      { entryScope host statics state'.1 with calls := state'.2.calls } := by
  have unbound {x : String} (asked : used x) (free : x ∉ Scope.builtins) :
      (entryScope host statics state.1).binding? x ≠ none := by
    rcases each x asked with paired | ⟨_, _, built⟩
    · obtain ⟨node, _, found, _⟩ := paired.same
      rw [binding?_entryScope, found]
      exact Option.some_ne_none node
    · exact absurd built free
  have fresh {last : Journal} (grown : journal.Entered last) :
      Partial.shown last.calls = Partial.shown journal.calls :=
    funext (Partial.shown_congr grown.extends.result?_eq)
  have plain (env : Environment) : (entryScope host statics env).host = host ∧
      (entryScope host statics env).output = none := by
    unfold entryScope
    cases env.tier <;> exact ⟨rfl, rfl⟩
  refine ⟨(plain _).1.trans (plain _).1.symm, ?_, ?_, ?_, ?_⟩
  · intro x asked
    show ((entryScope host statics state.1).binding? x).map _ =
      ((entryScope host statics state'.1).binding? x).map _
    rw [binding?_entryScope, binding?_entryScope]
    rcases each x asked with paired | ⟨missing, missing', _⟩
    · obtain ⟨node, node', found, found', _⟩ := paired.same
      have same := paired.shown
      rw [found, found'] at same
      rw [found, found']
      exact same
    · rw [missing, missing', tiers]
      show Option.map (Partial.shown state.2.calls) _ = Option.map (Partial.shown state'.2.calls) _
      rw [fresh grown, fresh grown']
  · exact fun asked none => absurd none (unbound asked (by decide))
  · exact fun asked none => absurd none (unbound asked (by decide))
  · show Option.map _ (entryScope host statics state.1).output =
      Option.map _ (entryScope host statics state'.1).output
    rw [(plain _).2, (plain _).2]
    rfl

/-- The same value in scopes that show the same for the names it reads. -/
theorem paired_concat {first last : Fields Value} {name : String} {value : Value}
    (mirrors : Scope.MirrorsOn value.Mentions
      { entryScope host statics (buildNamed engine host tier statics journal first).1 with
        calls := (buildNamed engine host tier statics journal first).2.calls }
      { entryScope host statics (buildNamed engine host tier statics journal last).1 with
        calls := (buildNamed engine host tier statics journal last).2.calls }) :
    Paired name (buildNamed engine host tier statics journal (first ++ [(name, value)]))
      (buildNamed engine host tier statics journal (last ++ [(name, value)])) := by
  have concat (fields : Fields Value) :
      let soFar := buildNamed engine host tier statics journal fields
      let evaluated := evaluateEntry engine (entryScope host statics soFar.1) value soFar.2
      buildNamed engine host tier statics journal (fields ++ [(name, value)]) =
        (soFar.1.insert name (.ofOutcome evaluated.2.calls evaluated.1), evaluated.2) := by
    have split : namedOrder (fields ++ [(name, value)]) = namedOrder fields ++ [(some name, value)] :=
      List.map_append
    intro soFar evaluated
    rw [buildNamed, split]
    exact buildEntries_concat engine host tier statics journal _ (some name, value)
  have counterparts := counterparts_entry engine mirrors fun _ mentioned => mentioned
  rw [concat, concat]
  generalize evaluateEntry engine _ value (buildNamed engine host tier statics journal first).2 =
    evaluated at counterparts
  generalize evaluateEntry engine _ value (buildNamed engine host tier statics journal last).2 =
    evaluated' at counterparts
  cases counterparts with
  | intro outcome own unobserved started =>
    have landed (base : Journal) : Partial.ofOutcome (base.append own).calls
        (outcome.shift base.calls.length) =
          (Partial.ofOutcome own.calls outcome).shift base.calls.length :=
      Partial.ofOutcome_shift base.calls own.calls outcome
    refine .intro (buildNamed engine host tier statics journal first).2.calls
      (buildNamed engine host tier statics journal last).2.calls own.calls [] [] started
      ?_ ?_ ?_ ?_ nofun nofun
    · rw [landed]
      exact Fields.find?_put_self _ _ _
    · rw [landed]
      exact Fields.find?_put_self _ _ _
    · rw [List.append_nil]
      rfl
    · rw [List.append_nil]
      rfl

theorem paired_of_selfContained {globals locals merged : Fields Value}
    (names : Fields.names merged = Fields.names globals ++
      (Fields.names locals).filter fun name => name ∉ Fields.names globals)
    (found : ∀ name, Fields.find? name merged =
      (Fields.find? name locals).or (Fields.find? name globals))
    (distinct : Fields.Distinct merged) (distinctLocals : Fields.Distinct locals)
    (selfContained : Declaration.SelfContained locals)
    (apart : ∀ name ∈ Fields.names globals, name ∉ Scope.builtins)
    (inOrder : Declaration.OverridesInOrder globals locals) {before after : Fields Value}
    {name : String} {value : Value} (here : locals = before ++ (name, value) :: after) :
    ∃ earlier later, merged = earlier ++ (name, value) :: later ∧
      Paired name (buildNamed engine host tier statics journal (earlier ++ [(name, value)]))
        (buildNamed engine host tier statics journal (before ++ [(name, value)])) := by
  -- What an entry reads is a local entry before it, so the induction is on how many there are.
  induction size : before.length using Nat.strongRecOn generalizing before after name value with
  | ind n ih =>
    have value_eq : Fields.find? name merged = some value := by
      rw [found, here, Fields.find?_of_split (here ▸ distinctLocals)]
      rfl
    obtain ⟨earlier, later, there⟩ := Fields.split_of_find? value_eq
    refine ⟨earlier, later, there, ?_⟩
    have places := names_earlier names distinct here there
    have distinctBefore : Fields.Distinct (before ++ (name, value) :: after) := here ▸ distinctLocals
    have distinctEarlier : Fields.Distinct (earlier ++ (name, value) :: later) := there ▸ distinct
    apply paired_concat
    refine mirrors_of_paired host statics journal ?_ (entered_start engine host tier statics journal _)
      (entered_start engine host tier statics journal _) ?_
    · exact (tier_buildEntries engine host tier statics journal).trans
        (tier_buildEntries engine host tier statics journal).symm
    · intro x mentioned
      by_cases local_x : x ∈ Fields.names before
      · left
        have earlier_x : x ∈ Fields.names earlier := by
          rcases places with ⟨_, listed⟩ | ⟨rest, listed⟩
          · rw [listed, List.mem_append, List.mem_filter]
            by_cases global : x ∈ Fields.names globals
            · exact Or.inl global
            · exact Or.inr ⟨local_x, by simpa using global⟩
          · exact inOrder before name value after here _ rest listed x local_x mentioned
        obtain ⟨first, w, between, rfl⟩ := Fields.split_of_mem local_x
        obtain ⟨first', w', between', rfl⟩ := Fields.split_of_mem earlier_x
        rw [List.append_assoc] at here there
        obtain ⟨front, back, there', paired⟩ := ih first.length (by
          rw [← size, List.length_append, List.length_cons]
          omega) here rfl
        obtain ⟨rfl, rfl⟩ := Fields.split_unique (there' ▸ distinct) (there'.symm.trans there)
        have prefix_distinct := Fields.distinct_of_append distinctEarlier
        have prefix_distinct' := Fields.distinct_of_append distinctBefore
        rw [List.append_cons] at prefix_distinct prefix_distinct' ⊢
        rw [List.append_cons first]
        exact paired_append engine host tier statics journal between' between paired
          prefix_distinct prefix_distinct' (by simp [Fields.names]) (by simp [Fields.names])
      · right
        have built : x ∈ Scope.builtins :=
          (selfContained before name value after here x mentioned).resolve_left local_x
        have absent : x ∉ Fields.names earlier := by
          intro member
          rcases places with ⟨_, listed⟩ | ⟨rest, listed⟩
          · rw [listed, List.mem_append, List.mem_filter] at member
            rcases member with global | ⟨own, _⟩
            · exact apart x global built
            · exact local_x own
          · exact apart x (listed ▸ List.mem_append_left _ member) built
        exact ⟨find?_buildNamed_of_notMem engine host tier statics journal
            (Fields.distinct_of_append distinctEarlier) absent,
          find?_buildNamed_of_notMem engine host tier statics journal
            (Fields.distinct_of_append distinctBefore) local_x, built⟩

end

/-- Global variables do not change what local ones come to that read only each other and what every
scope has, even when some override global ones, as long as the local variables that an overriding
one reads override global ones before it. -/
theorem local_variables_unaffected (engine : Engine) (host : HostState) (tier : Tier)
    (statics : Option Environment) (globals locals : Fields Value) (journal : Journal)
    (distinctGlobals : Fields.Distinct globals) (distinctLocals : Fields.Distinct locals)
    (selfContained : Declaration.SelfContained locals)
    (apart : ∀ name ∈ Fields.names globals, name ∉ Scope.builtins)
    (inOrder : Declaration.OverridesInOrder globals locals) :
    let together :=
      build engine host tier statics (some (.named globals)) (some (.named locals)) journal
    let alone := build engine host tier statics none (some (.named locals)) journal
    ∀ name ∈ Fields.names locals, ∃ node node',
      together.1.find? name = some node ∧ alone.1.find? name = some node' ∧
        node.Same together.2.calls alone.2.calls node' := by
  intro together alone name member
  have names := Merged.names_merge (some (.named globals)) (some (.named locals))
    distinctGlobals distinctLocals
  have found := Merged.find?_merge (some (.named globals)) (some (.named locals))
    distinctGlobals distinctLocals
  have distinct := Merged.distinct_merge (some (.named globals)) (some (.named locals))
  have together_eq : together = buildNamed engine host tier statics journal _ :=
    build_named engine host tier statics journal (some (.named globals)) locals rfl
  have alone_eq : alone = buildNamed engine host tier statics journal locals := by
    have own : (Merged.merge none (some (.named locals))).named = locals :=
      (Merged.named_merge none (some (.named locals))).trans (Fields.putAll_nil distinctLocals)
    have built := build_named engine host tier statics journal none locals rfl
    rw [own] at built
    exact built
  obtain ⟨before, value, after, here⟩ := Fields.split_of_mem member
  obtain ⟨earlier, later, there, paired⟩ := paired_of_selfContained engine host tier statics journal
    names found distinct distinctLocals selfContained apart inOrder here
  have whole := paired_append engine host tier statics journal later after paired
    (by rw [← List.append_cons, ← there]; exact distinct)
    (by rw [← List.append_cons, ← here]; exact distinctLocals)
    (by simp [Fields.names]) (by simp [Fields.names])
  rw [← List.append_cons, ← List.append_cons, ← there, ← here] at whole
  rw [together_eq, alone_eq]
  exact whole.same

theorem classify_a : Template.classify "a" = .plain := by
  have letters : "a".toList = ['a'] := by cbv
  apply Template.classify_eq_plain
  · rw [letters]
    decide
  · rw [letters]
    rfl

theorem parse_a : Expr.parse "a" = .ok (.name "a") := by
  cbv

theorem mentions_a {x : String} (mentioned : (Value.text "a").Mentions x) : x = "a" := by
  obtain ⟨e, ⟨source, inside, parsed⟩, within⟩ := mentioned
  rw [Template.sourcesIn, classify_a] at inside
  obtain rfl : source = "a" := List.mem_singleton.mp inside
  rw [parse_a] at parsed
  cases parsed
  cases within
  rfl

theorem evaluateEntry_a (scope : Scope) (journal : Journal) :
    evaluateEntry {} scope (.text "a") journal =
      match ({ scope with calls := journal.calls } : Scope).lookup "a" with
      | .ok value => (.ready value, journal)
      | .error failure => (.ready .null, journal.emit (.expressionFailed "a" failure)) := by
  cases found : ({ scope with calls := journal.calls } : Scope).lookup "a" with
  | ok value =>
    simp only [evaluateEntry, Engine.evaluateTemplate, classify_a, Engine.evaluate,
      Engine.evaluateOr, Engine.tryEvaluate, parse_a, Except.mapError, ok_bind, Expr.evalTail,
      Expr.eval, found]
    rfl
  | error failure =>
    simp only [evaluateEntry, Engine.evaluateTemplate, classify_a, Engine.evaluate,
      Engine.evaluateOr, Engine.tryEvaluate, parse_a, Except.mapError, ok_bind, Expr.evalTail,
      Expr.eval, found, error_bind]

theorem split_chain {before after : Fields Value} {name : String} {value : Value}
    (split : [("a", .bool true), ("b", .text "a")] = before ++ (name, value) :: after) :
    before = [] ∧ name = "a" ∧ value = .bool true ∨
      before = [("a", .bool true)] ∧ name = "b" ∧ value = .text "a" := by
  cases before with
  | nil =>
    obtain ⟨first, _⟩ := List.cons.inj split
    cases first
    exact Or.inl ⟨rfl, rfl, rfl⟩
  | cons first rest =>
    obtain ⟨rfl, tail⟩ := List.cons.inj split
    cases rest with
    | nil =>
      obtain ⟨second, _⟩ := List.cons.inj tail
      cases second
      exact Or.inr ⟨rfl, rfl, rfl⟩
    | cons second rest =>
      obtain ⟨_, none⟩ := List.cons.inj tail
      cases rest <;> cases none

theorem selfContained_chain : Declaration.SelfContained [("a", .bool true), ("b", .text "a")] := by
  intro before name value after split x mentioned
  rcases split_chain split with ⟨rfl, rfl, rfl⟩ | ⟨rfl, rfl, rfl⟩
  · obtain ⟨e, ⟨leaf, inside, _⟩, _⟩ := mentioned
    cases inside
  · rw [mentions_a mentioned]
    exact Or.inl List.mem_cons_self

theorem distinct_chain : Fields.Distinct [("a", Value.bool true), ("b", .text "a")] := by
  simp [Fields.Distinct, Fields.names]

theorem find?_chain_alone : (build {} {} .dynamic none none
    (some (.named [("a", .bool true), ("b", .text "a")])) {}).1.find? "b" =
      some (.ready (.bool true)) := by
  have entries : order (Merged.merge none (some (.named [("a", .bool true), ("b", .text "a")]))) =
      [(some "a", .bool true), (some "b", .text "a")] := rfl
  simp only [build, entries, List.foldl, extend, evaluateEntry_a]
  rfl

theorem find?_chain_together : (build {} {} .dynamic none (some (.named [("b", .null)]))
    (some (.named [("a", .bool true), ("b", .text "a")])) {}).1.find? "b" =
      some (.ready .null) := by
  have entries : order (Merged.merge (some (.named [("b", .null)]))
      (some (.named [("a", .bool true), ("b", .text "a")]))) =
        [(some "b", .text "a"), (some "a", .bool true)] := rfl
  simp only [build, entries, List.foldl, extend, evaluateEntry_a]
  rfl

/-- Beside a global `b` the local variables `{a: true, b: a}` do not mean what they mean alone: `b` is
evaluated in the place of the global one, where there is no `a` yet. -/
theorem overriding_reads_too_early :
    let globals : Fields Value := [("b", .null)]
    let locals : Fields Value := [("a", .bool true), ("b", .text "a")]
    let together :=
      build {} {} .dynamic none (some (.named globals)) (some (.named locals)) {}
    let alone := build {} {} .dynamic none none (some (.named locals)) {}
    Fields.Distinct globals ∧ Fields.Distinct locals ∧ Declaration.SelfContained locals ∧
      (∀ name ∈ Fields.names globals, name ∉ Scope.builtins) ∧ "b" ∈ Fields.names locals ∧
      ¬ ∃ node node', together.1.find? "b" = some node ∧ alone.1.find? "b" = some node' ∧
        node.Same together.2.calls alone.2.calls node' := by
  intro globals locals together alone
  refine ⟨List.nodup_singleton "b", distinct_chain, selfContained_chain, by decide, by decide, ?_⟩
  rintro ⟨node, node', here, there, same⟩
  rw [find?_chain_together] at here
  rw [find?_chain_alone] at there
  cases here
  cases there
  cases same

/-- Beside global `a` and `b`, in this order, they do. -/
theorem local_variables_unaffected_in_order :
    let globals : Fields Value := [("a", .null), ("b", .null)]
    let locals : Fields Value := [("a", .bool true), ("b", .text "a")]
    let together :=
      build {} {} .dynamic none (some (.named globals)) (some (.named locals)) {}
    Fields.Distinct globals ∧ Fields.Distinct locals ∧ Declaration.SelfContained locals ∧
      (∀ name ∈ Fields.names globals, name ∉ Scope.builtins) ∧
      Declaration.OverridesInOrder globals locals ∧
      together.1.find? "b" = some (.ready (.bool true)) := by
  intro globals locals together
  have distinct : Fields.Distinct globals := by
    simp [globals, Fields.Distinct, Fields.names]
  have inOrder : Declaration.OverridesInOrder globals locals := by
    intro before name value after split earlier later places x member mentioned
    rcases split_chain split with ⟨rfl, rfl, rfl⟩ | ⟨rfl, rfl, rfl⟩
    · cases member
    · have names : ["a"] ++ "b" :: [] = earlier ++ "b" :: later := places
      have absent : "b" ∉ earlier := by
        intro other
        have nodup : (["a", "b"] : List String).Nodup := by decide
        rw [show ["a", "b"] = earlier ++ "b" :: later from places, List.nodup_append] at nodup
        exact nodup.2.2 "b" other "b" List.mem_cons_self rfl
      rw [mentions_a mentioned, ← Fields.append_cons_unique (by decide) absent names]
      exact List.mem_cons_self
  refine ⟨distinct, distinct_chain, selfContained_chain, by decide, inOrder, ?_⟩
  obtain ⟨node, node', here, there, same⟩ := local_variables_unaffected {} {} .dynamic none globals
    locals {} distinct distinct_chain selfContained_chain (by decide) inOrder "b" (by decide)
  rw [find?_chain_alone] at there
  cases there
  rw [here]
  cases node with
  | ready v => rw [show v = .bool true from same]
  | _ => cases same

end Environment

end LiveConfig
