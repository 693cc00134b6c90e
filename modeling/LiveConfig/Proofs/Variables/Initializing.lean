import LiveConfig.Proofs.Functions.Registering
import LiveConfig.Proofs.Grammar.Layout
import LiveConfig.Proofs.Variables.Viewing

set_option autoImplicit false

namespace LiveConfig

namespace Script

/-- A word that names are written with; keywords are among them. -/
def IsIdentifier (name : String) : Prop :=
  ∃ c rest, name.toList = c :: rest ∧ Token.isNameStart c = true ∧
    ∀ d ∈ rest, Token.isNamePart d = true

/-- The lines of a text, without empty ones. -/
def lines (text : String) : List String :=
  ((text.toList.splitOn '\n').filter (· ≠ [])).map String.ofList

/-- The name that a line `var name = value;` declares, and the text of its value. -/
def declaration? : List Char → Option (List Char × List Char)
  | 'v' :: 'a' :: 'r' :: ' ' :: rest =>
    match rest.takeWhile Token.isNamePart, rest.dropWhile Token.isNamePart with
    | c :: name, ' ' :: '=' :: ' ' :: value =>
      if Token.isNameStart c ∧ value.getLast? = some ';' then some (c :: name, value.dropLast)
      else none
    | _, _ => none
  | _ => none

/-- Runs one line: its name is bound to the value of its expression, whatever it was bound to. -/
def step (registry : Registry) (scope : Scope) (bound : Fields Value) (line : String) :
    Option (Fields Value) := do
  let (name, source) ← declaration? line.toList
  let e ← (Expr.parse (String.ofList source)).toOption
  let value ← (e.eval registry scope).toOption
  return Fields.put (String.ofList name) value bound

/-- What the lines of a text bind, one after another, when nothing is bound before. -/
def run (registry : Registry) (scope : Scope) (text : String) : Option (Fields Value) :=
  (lines text).foldlM (step registry scope) []

theorem splitOn_join {texts : List String} (unbroken : ∀ text ∈ texts, '\n' ∉ text.toList) :
    (String.join (texts.map (· ++ "\n"))).toList.splitOn '\n' =
      texts.map String.toList ++ [[]] := by
  induction texts with
  | nil => rfl
  | cons text rest ih =>
    obtain ⟨here, later⟩ := List.forall_mem_cons.mp unbroken
    have split : (String.join ((text :: rest).map (· ++ "\n"))).toList =
        text.toList ++ '\n' :: (String.join (rest.map (· ++ "\n"))).toList := by
      simp [String.toList_join]
    rw [split, List.splitOn_append_cons_self_of_not_mem here, ih later]
    rfl

theorem lines_join {texts : List String} (filled : ∀ text ∈ texts, text ≠ "")
    (unbroken : ∀ text ∈ texts, '\n' ∉ text.toList) :
    lines (String.join (texts.map (· ++ "\n"))) = texts := by
  have kept : (texts.map String.toList).filter (· ≠ []) = texts.map String.toList := by
    refine List.filter_eq_self.mpr (List.forall_mem_map.mpr fun text member => ?_)
    simpa using filled text member
  rw [lines, splitOn_join unbroken, List.filter_append, kept, List.map_append, List.map_map]
  simp

theorem IsIdentifier.parts {name : String} (identifier : IsIdentifier name) :
    ∀ c ∈ name.toList, Token.isNamePart c = true := by
  obtain ⟨c, rest, shown, starts, parts⟩ := identifier
  rw [shown]
  exact List.forall_mem_cons.mpr ⟨Token.isNamePart_of_isNameStart starts, parts⟩

theorem quoted_self {quote : Char} {text : List Char}
    (plain : ∀ c ∈ text, c ≠ '\\' ∧ c ≠ quote) : Token.Quoted quote text text := by
  induction text with
  | nil => exact .nil
  | cons c rest ih =>
    obtain ⟨⟨solid, other⟩, plain⟩ := List.forall_mem_cons.mp plain
    exact .plain solid other (ih plain)

theorem IsIdentifier.quoted {name : String} (identifier : IsIdentifier name) {quote : Char}
    (opens : Token.IsQuote quote) : Token.Quoted quote name.toList name.toList := by
  refine quoted_self fun c member => ?_
  have part := identifier.parts c member
  constructor
  · rintro rfl
    revert part
    decide
  · rintro rfl
    exact Token.not_isQuote_of_isNamePart part opens

theorem IsIdentifier.unbroken {name : String} (identifier : IsIdentifier name) :
    '\n' ∉ name.toList := by
  have solid : Token.isNamePart '\n' = false := Token.not_isNamePart_of_isBlank (by decide)
  exact fun inside => Bool.eq_false_iff.mp solid (identifier.parts _ inside)

theorem declaration?_line {name : String} (identifier : IsIdentifier name) (source : String) :
    declaration? ("var " ++ name ++ " = " ++ source ++ ";").toList =
      some (name.toList, source.toList) := by
  have all := identifier.parts
  obtain ⟨c, rest, shown, starts, -⟩ := identifier
  rw [shown] at all
  have ends (after : List Char) : ∀ d ∈ (' ' :: after).head?, Token.isNamePart d = false := by
    intro d head
    cases head
    exact Token.not_isNamePart_of_isBlank (by decide)
  have split : ("var " ++ name ++ " = " ++ source ++ ";").toList =
      'v' :: 'a' :: 'r' :: ' ' :: (c :: rest ++ ' ' :: '=' :: ' ' :: (source.toList ++ [';'])) := by
    simp [String.toList_append, shown]
  rw [split, declaration?, Token.takeWhile_append_of_ends all (ends _),
    Token.dropWhile_append_of_ends all (ends _), shown]
  simp [starts]

end Script

namespace Environment

/-- The line that binds a name, without its break. -/
def declares (tier : Tier) (name : String) : String :=
  "var " ++ name ++ " = " ++ (tier.scopeName ++ "['" ++ name ++ "']") ++ ";"

theorem bindingLine_eq (tier : Tier) (name : String) :
    bindingLine tier name = declares tier name ++ "\n" := by
  simp only [bindingLine, declares, String.append_assoc]
  rfl

theorem initializer_eq (env : Environment) : env.initializer =
    String.join (((Fields.names env.named).map (declares env.tier)).map (· ++ "\n")) := by
  rw [initializer, List.map_map]
  exact congrArg String.join (List.map_congr_left fun name _ => bindingLine_eq env.tier name)

theorem declares_filled (tier : Tier) (name : String) : declares tier name ≠ "" := by
  intro empty
  have shown := congrArg String.toList empty
  simp [declares] at shown

theorem declares_unbroken (tier : Tier) {name : String} (identifier : Script.IsIdentifier name) :
    '\n' ∉ (declares tier name).toList := by
  have solid := identifier.unbroken
  cases tier <;> simp [declares, Tier.scopeName, String.toList_append, solid]

end Environment

theorem Token.lex_entry (tier : Tier) {name : String} (identifier : Script.IsIdentifier name) :
    Token.lex (tier.scopeName ++ "['" ++ name ++ "']") = .ok
      [.name tier.scopeName, .symbol .openBracket, .text name, .symbol .closeBracket, .eof] := by
  have single : IsQuote '\'' := .inl rfl
  have word : Spelled (.name tier.scopeName) tier.scopeName.toList .name := by
    cases tier
    · exact .of_word "svars" rfl (by decide) (by decide)
    · exact .of_word "vars" rfl (by decide) (by decide)
  have literal := Spelled.literal single (identifier.quoted single)
  rw [String.ofList_toList] at literal
  have opened : isNamePart '[' = false := by decide
  -- from the last token to the first, since each has to end before the next one
  have closes := (Spelled.symbol .closeBracket).reads (.nil []) trivial
  have indexes := (Spelled.symbol .openBracket).reads (literal.reads closes trivial) trivial
  have reads := word.reads indexes (by simpa [Limit.Ends, Symbol.text] using opened)
  have lexed := reads.tokensOf_eq
  rw [tokensOf] at lexed
  have split : (tier.scopeName ++ "['" ++ name ++ "']").toList = tier.scopeName.toList ++
      ('[' :: '\'' :: (name.toList ++ ['\'', ']'])) := by
    simp [String.toList_append]
  rw [lex_eq_ok_iff, split]
  simpa [Symbol.text, Except.map] using lexed

/-- The value in the line of a name is an entry of the object of its tier. -/
theorem Expr.parse_entry (tier : Tier) {name : String} (identifier : Script.IsIdentifier name) :
    Expr.parse (tier.scopeName ++ "['" ++ name ++ "']") =
      .ok (.index (.name tier.scopeName) (.text name)) := by
  rw [Expr.parse, Token.lex_entry tier identifier]
  rfl

namespace Scope

/-- A scope with two variables, `svars` and `vars`, for all variables of either tier. -/
def views (scope : Scope) : Scope where
  host := scope.host
  dynamics := some {
    tier := .dynamic
    named := [Tier.static, .dynamic].map fun tier =>
      (tier.scopeName, .ready (viewOf scope.calls (scope.environment? tier))) }
  calls := scope.calls

theorem lookup_views (scope : Scope) (tier : Tier) :
    scope.views.lookup tier.scopeName = .ok (viewOf scope.calls (scope.environment? tier)) := by
  cases tier <;> rfl

end Scope

namespace Script

section

variable {scope : Scope} {tier : Tier} {env : Environment} (registry : Registry)
  (shown : scope.environment? tier = some env) (distinct : Fields.Distinct env.named)
include shown distinct

theorem step_declares {name : String} {entry : Partial} (identifier : IsIdentifier name)
    (found : env.find? name = some entry) (bound : Fields Value) :
    step registry scope.views bound (Environment.declares tier name) =
      some (Fields.put name (entry.toValue scope.calls) bound) := by
  have evaluated : (Expr.index (.name tier.scopeName) (.text name)).eval registry scope.views =
      .ok (entry.toValue scope.calls) := by
    have visible := Environment.find?_visible_of_find? scope.calls distinct found
    rw [Expr.eval_index, Expr.eval, Expr.eval, Scope.lookup_views, shown, Scope.viewOf,
      Environment.view_eq]
    show Except.ok ((Fields.find? name (env.visible scope.calls)).getD Value.null) = _
    rw [visible]
    rfl
  rw [step, Environment.declares, declaration?_line identifier]
  simp only [Option.bind_eq_bind, Option.bind_some, String.ofList_toList,
    Expr.parse_entry tier identifier, Except.toOption, evaluated]
  rfl

theorem foldlM_declares (identifiers : ∀ name ∈ Fields.names env.named, IsIdentifier name)
    (bound : Fields Value) :
    ((Fields.names env.named).map (Environment.declares tier)).foldlM
        (step registry scope.views) bound =
      some (Fields.putAll bound
        (Fields.mapValues (Partial.toValue scope.calls) env.named)) := by
  have each : ∀ field ∈ env.named, env.find? field.1 = some field.2 ∧ IsIdentifier field.1 :=
    fun field member => ⟨Value.find?_of_mem distinct member,
      identifiers field.1 (List.mem_map_of_mem member)⟩
  revert each
  generalize env.named = rest
  intro each
  induction rest generalizing bound with
  | nil => rfl
  | cons field rest ih =>
    obtain ⟨⟨found, identifier⟩, each⟩ := List.forall_mem_cons.mp each
    show (step registry scope.views bound (Environment.declares tier field.1)).bind _ = _
    rw [step_declares registry shown distinct identifier found]
    exact ih _ each

end

end Script

/-- What the variables of a tier have to be for their lines to run. -/
structure Environment.Runnable (calls : Calls) (tier : Tier) (env : Environment) : Prop where
  tier_eq : env.tier = tier
  settled : env.isSettled calls = true
  distinct : Fields.Distinct env.named
  identifiers : ∀ name ∈ Fields.names env.named, Script.IsIdentifier name

namespace Scope

def named (scope : Scope) (tier : Tier) : Fields Partial :=
  (scope.environment? tier).elim [] Environment.named

theorem binding?_eq (scope : Scope) (name : String) : scope.binding? name =
    (Fields.find? name (scope.named .dynamic)).or (Fields.find? name (scope.named .static)) := by
  rw [binding?, named, named, environment?, environment?]
  cases scope.dynamics <;> cases scope.statics <;> simp [Environment.find?, Fields.find?]

def values (scope : Scope) (tier : Tier) : Fields Value :=
  Fields.mapValues (Partial.toValue scope.calls) (scope.named tier)

def declarations (scope : Scope) (tier : Tier) : List String :=
  (Fields.names (scope.named tier)).map (Environment.declares tier)

section

variable {scope : Scope}
  (runnable : ∀ tier, ∀ env ∈ scope.environment? tier, env.Runnable scope.calls tier)
include runnable

theorem identifier_of_named {tier : Tier} {name : String}
    (member : name ∈ Fields.names (scope.named tier)) : Script.IsIdentifier name := by
  rw [named] at member
  cases shown : scope.environment? tier with
  | none =>
    rw [shown] at member
    cases member
  | some env =>
    rw [shown] at member
    exact (runnable tier env shown).identifiers name member

theorem distinct_named (tier : Tier) : Fields.Distinct (scope.named tier) := by
  rw [named]
  cases shown : scope.environment? tier with
  | none => exact List.nodup_nil
  | some env => exact (runnable tier env shown).distinct

theorem isSettled_of_binding? {name : String} {entry : Partial}
    (bound : scope.binding? name = some entry) : entry.isSettled scope.calls = true := by
  have settled {tier : Tier} (found : Fields.find? name (scope.named tier) = some entry) :
      entry.isSettled scope.calls = true := by
    rw [named] at found
    cases shown : scope.environment? tier with
    | none =>
      rw [shown] at found
      cases found
    | some env =>
      rw [shown] at found
      exact List.all_eq_true.mp (runnable tier env shown).settled entry
        (Environment.mem_entries_of_find? found)
  rw [binding?_eq, Option.or_eq_some_iff] at bound
  rcases bound with dynamic | ⟨-, static⟩
  · exact settled dynamic
  · exact settled static

theorem initializerOf_eq : Environment.initializerOf scope.statics scope.dynamics =
    String.join ((scope.declarations .static ++ scope.declarations .dynamic).map (· ++ "\n")) := by
  have tierwise (tier : Tier) : ((scope.environment? tier).map Environment.initializer).getD "" =
      String.join ((scope.declarations tier).map (· ++ "\n")) := by
    rw [declarations, named]
    cases shown : scope.environment? tier with
    | none => rfl
    | some env =>
      rw [← (runnable tier env shown).tier_eq]
      exact env.initializer_eq
  rw [← String.toList_inj, List.map_append, String.toList_join, List.flatMap_append,
    ← String.toList_join, ← String.toList_join, ← tierwise, ← tierwise]
  show (Environment.initializerOf scope.statics scope.dynamics).toList =
    ((scope.statics.map _).getD "").toList ++ ((scope.dynamics.map _).getD "").toList
  rw [Environment.initializerOf]
  cases scope.statics <;> cases scope.dynamics <;> simp

theorem lines_initializerOf :
    Script.lines (Environment.initializerOf scope.statics scope.dynamics) =
      scope.declarations .static ++ scope.declarations .dynamic := by
  have filled (tier : Tier) : ∀ line ∈ scope.declarations tier, line ≠ "" :=
    List.forall_mem_map.mpr fun name _ => Environment.declares_filled tier name
  have unbroken (tier : Tier) : ∀ line ∈ scope.declarations tier, '\n' ∉ line.toList :=
    List.forall_mem_map.mpr fun name member =>
      Environment.declares_unbroken tier (identifier_of_named runnable member)
  rw [initializerOf_eq runnable]
  exact Script.lines_join (List.forall_mem_append.mpr ⟨filled .static, filled .dynamic⟩)
    (List.forall_mem_append.mpr ⟨unbroken .static, unbroken .dynamic⟩)

theorem foldlM_declarations (registry : Registry) (tier : Tier) (bound : Fields Value) :
    (scope.declarations tier).foldlM (Script.step registry scope.views) bound =
      some (Fields.putAll bound (scope.values tier)) := by
  rw [declarations, values, named]
  cases shown : scope.environment? tier with
  | none => rfl
  | some env =>
    have ready := runnable tier env shown
    exact Script.foldlM_declares registry shown ready.distinct ready.identifiers bound

/-- The lines of the dynamic tier are run after those of the static one. -/
theorem run_initializerOf (registry : Registry) :
    Script.run registry scope.views (Environment.initializerOf scope.statics scope.dynamics) =
      some (Fields.putAll (Fields.putAll [] (scope.values .static)) (scope.values .dynamic)) := by
  rw [Script.run, lines_initializerOf runnable, List.foldlM_append,
    foldlM_declarations runnable registry .static]
  exact foldlM_declarations runnable registry .dynamic _

theorem find?_putAll_values (name : String) : Fields.find? name
      (Fields.putAll (Fields.putAll [] (scope.values .static)) (scope.values .dynamic)) =
    (scope.binding? name).map (Partial.toValue scope.calls) := by
  have distinct (tier : Tier) : Fields.Distinct (scope.values tier) :=
    Fields.distinct_mapValues _ (distinct_named runnable tier)
  rw [Fields.find?_putAll name _ _ (distinct .dynamic),
    Fields.find?_putAll name _ _ (distinct .static), values, values, Fields.find?_mapValues,
    Fields.find?_mapValues, binding?_eq]
  cases Fields.find? name (scope.named .dynamic) <;> simp [Fields.find?]

end

/-- The lines that bind the variables, as a script, bind what a bare name is looked up in: exactly
the names of variables, each to the entry that the name stands for. `svars` and `vars` are the
variables of both tiers on every line, also after a variable of that name. It makes no difference
which functions are registered. -/
theorem initializer_binds_what_lookup_finds (registry : Registry) (scope : Scope)
    (runnable : ∀ tier, ∀ env ∈ scope.environment? tier, env.Runnable scope.calls tier) :
    let fragment := Environment.initializerOf scope.statics scope.dynamics
    (Script.lines fragment =
      (Fields.names (scope.named .static)).map (Environment.declares .static) ++
        (Fields.names (scope.named .dynamic)).map (Environment.declares .dynamic)) ∧
    ∃ bound, Script.run registry scope.views fragment = some bound ∧
      (∀ name, name ∈ Fields.names bound ↔ (scope.binding? name).isSome = true) ∧
      (∀ name value, Fields.find? name bound = some value → scope.lookup name = .ok value) ∧
      (∀ name, Fields.find? name bound = none → scope.lookup name = scope.builtinName name) ∧
      (∀ env ∈ scope.dynamics, ∀ name entry, env.find? name = some entry →
        Fields.find? name bound = some (entry.toValue scope.calls)) ∧
      ∀ env ∈ scope.statics, ∀ name entry, env.find? name = some entry →
        (∀ dynamics ∈ scope.dynamics, dynamics.find? name = none) →
        Fields.find? name bound = some (entry.toValue scope.calls) := by
  intro fragment
  have found := find?_putAll_values runnable
  refine ⟨lines_initializerOf runnable, _, run_initializerOf runnable registry, ?_, ?_, ?_, ?_, ?_⟩
  · intro name
    rw [← Option.isSome_map, ← found, Option.isSome_iff_ne_none, ne_eq,
      Fields.find?_eq_none_iff, not_not]
  · intro name value here
    rw [found] at here
    obtain ⟨entry, bound, rfl⟩ := Option.map_eq_some_iff.mp here
    rw [lookup, bound]
    exact if_pos (isSettled_of_binding? runnable bound)
  · intro name absent
    rw [found, Option.map_eq_none_iff] at absent
    rw [lookup, absent]
  · intro env shown name entry here
    rw [found, binding?, Option.mem_def.mp shown, Option.bind_some, here]
    rfl
  · intro env shown name entry here unhidden
    have missing : scope.dynamics.bind (·.find? name) = none :=
      Option.bind_eq_none_iff.mpr unhidden
    rw [found, binding?, missing, Option.mem_def.mp shown, Option.orElse_none, Option.bind_some,
      here]
    rfl

/-- `unit` is bound twice, and the dynamic line wins. -/
theorem initializer_binds_unit :
    let statics : Environment := {
      tier := .static
      named := [("unit", .ready (.text "C")), ("on", .ready (.bool true))] }
    let dynamics : Environment := { tier := .dynamic, named := [("unit", .ready (.text "F"))] }
    let scope : Scope := { host := {}, statics := some statics, dynamics := some dynamics }
    (∀ tier, ∀ env ∈ scope.environment? tier, env.Runnable scope.calls tier) ∧
      Script.lines (Environment.initializerOf (some statics) (some dynamics)) =
        ["var unit = svars['unit'];", "var on = svars['on'];", "var unit = vars['unit'];"] ∧
      ∃ bound, Script.run .empty scope.views
          (Environment.initializerOf (some statics) (some dynamics)) = some bound ∧
        Fields.find? "unit" bound = some (.text "F") ∧ scope.lookup "unit" = .ok (.text "F") ∧
        Fields.find? "on" bound = some (.bool true) ∧ "user" ∉ Fields.names bound := by
  intro statics dynamics scope
  have unit : Script.IsIdentifier "unit" :=
    ⟨'u', ['n', 'i', 't'], rfl, by decide, List.all_eq_true.mp (by decide)⟩
  have on : Script.IsIdentifier "on" :=
    ⟨'o', ['n'], rfl, by decide, List.all_eq_true.mp (by decide)⟩
  have apart : ["unit", "on"].Nodup := by decide
  have runnable : ∀ tier, ∀ env ∈ scope.environment? tier, env.Runnable scope.calls tier := by
    intro tier env shown
    cases tier with
    | static =>
      obtain rfl : statics = env := Option.some.inj shown
      exact ⟨rfl, rfl, apart,
        List.forall_mem_cons.mpr ⟨unit, List.forall_mem_singleton.mpr on⟩⟩
    | dynamic =>
      obtain rfl : dynamics = env := Option.some.inj shown
      exact ⟨rfl, rfl, List.nodup_singleton "unit", List.forall_mem_singleton.mpr unit⟩
  obtain ⟨lines, bound, ran, bound_iff, looked, -, dynamic, static⟩ :=
    initializer_binds_what_lookup_finds .empty scope runnable
  have here := dynamic dynamics rfl "unit" _ rfl
  have there := static statics rfl "on" _ rfl (by rintro _ ⟨⟩; rfl)
  have absent : "user" ∉ Fields.names bound := fun member =>
    absurd ((bound_iff "user").mp member) (by decide)
  exact ⟨runnable, lines, bound, ran, here, looked "unit" _ here, there, absent⟩

end Scope

end LiveConfig
