import LiveConfig.Proofs.Evaluation.TailCalls
import LiveConfig.Proofs.Grammar.Segments
import LiveConfig.Proofs.Inspection.Evaluation
import LiveConfig.Proofs.Inspection.Writing
import LiveConfig.Proofs.Rewriting.Draft

set_option autoImplicit false

namespace LiveConfig

def Segment.source? : Segment → Option String
  | .expr source => some source
  | .text _ => none

namespace Template

/-- The expressions that the split of a string finds; none in a string with the escape mark. -/
def embedded (s : String) : List String :=
  if escapeMark.isPrefixOf s.toList then [] else (split s).filterMap Segment.source?

/-- The expressions of a declared string: those embedded in it, or else the whole string, unless it
has the escape mark. -/
def declared (s : String) : List String :=
  if escapeMark.isPrefixOf s.toList then []
  else if (split s).filterMap Segment.source? = [] then [s] else embedded s

/-- The texts that are read as expressions for a string. -/
def expressions (mode : Mode) (s : String) : List String :=
  match mode with
  | .structural => embedded s
  | .declaration => declared s

theorem sources_ofSegments (segments : List Segment) :
    (ofSegments segments).sources = segments.filterMap Segment.source? := by
  unfold ofSegments
  split
  · rfl
  · split
    · rfl
    · next none =>
      refine (List.filterMap_eq_nil_iff.mpr fun segment member => ?_).symm
      cases segment with
      | text s => rfl
      | expr source => exact absurd (List.any_eq_true.mpr ⟨_, member, rfl⟩) none

theorem ofSegments_eq_plain_iff_sources (segments : List Segment) :
    ofSegments segments = .plain ↔ segments.filterMap Segment.source? = [] := by
  rw [ofSegments_eq_plain_iff, List.filterMap_eq_nil_iff]
  constructor
  · intro none segment member
    cases segment with
    | text s => rfl
    | expr source => exact absurd member (none source)
  · intro texts source member
    cases texts _ member

theorem embedded_eq (s : String) : embedded s = (classify s).sources := by
  unfold embedded classify
  by_cases escaped : escapeMark.isPrefixOf s.toList = true
  · rw [if_pos escaped, if_pos escaped]
    rfl
  · rw [if_neg escaped, if_neg escaped, sources_ofSegments]

theorem declared_eq (s : String) :
    declared s = if classify s = .plain then [s] else (classify s).sources := by
  rw [← embedded_eq]
  unfold declared embedded classify
  by_cases escaped : escapeMark.isPrefixOf s.toList = true
  · simp only [if_pos escaped]
    rfl
  · simp only [if_neg escaped, ofSegments_eq_plain_iff_sources]

end Template

/-- A string of a configuration is scanned, and its expressions are read. -/
def Inspection.ofString (mode : Mode) (s : String) : List Inspection :=
  .scanned s :: (Template.expressions mode s).map .parsed

/-- All strings of a tree, in document order. -/
def Inspection.ofTree (tree : Value) : List Inspection :=
  (tree.strings []).flatMap fun leaf => ofString .structural leaf.2

/-- The strings of a variable that is declared as the value. -/
def Inspection.ofEntry : Value → List Inspection
  | .text s => ofString .declaration s
  | value => ofTree value

namespace Inspection

theorem scanned_ofString (mode : Mode) (s : String) :
    (ofString mode s).filterMap scanned? = [s] := by
  simp [ofString, scanned?, List.filterMap_map, Function.comp_def]

theorem parsed_ofString (mode : Mode) (s : String) :
    (ofString mode s).filterMap parsed? = Template.expressions mode s := by
  show ((Template.expressions mode s).map parsed).filterMap parsed? = _
  rw [List.filterMap_map]
  exact List.filterMap_some

theorem scanned_ofTree (tree : Value) :
    (ofTree tree).filterMap scanned? = (tree.strings []).map (·.2) := by
  simp only [ofTree, List.filterMap_flatMap, scanned_ofString]
  exact List.map_eq_flatMap.symm

theorem parsed_ofTree (tree : Value) : (ofTree tree).filterMap parsed? =
    (tree.strings []).flatMap fun leaf => Template.embedded leaf.2 := by
  simp only [ofTree, List.filterMap_flatMap, parsed_ofString]
  rfl

theorem scanned_ofEntry (value : Value) :
    (ofEntry value).filterMap scanned? = (value.strings []).map (·.2) := by
  cases value with
  | text s => exact scanned_ofString .declaration s
  | null | bool | number | array | object => exact scanned_ofTree _

theorem parsed_ofEntry (value : Value) : (ofEntry value).filterMap parsed? = match value with
    | .text s => Template.declared s
    | tree => (tree.strings []).flatMap fun leaf => Template.embedded leaf.2 := by
  cases value with
  | text s => exact parsed_ofString .declaration s
  | null | bool | number | array | object => exact parsed_ofTree _

end Inspection

/-- The answers of the given calls and of no other. -/
def Deferred.among (ids : List CallId) : Deferred Answers where
  calls := ids
  read answers id := if id ∈ ids then answers id else .ok .null
  read_congr first second agree := by
    funext id
    by_cases member : id ∈ ids
    · simp only [member, if_true, agree id member]
    · simp only [member, if_false]

theorem Partial.map_among (tree : Partial) :
    ((Deferred.among tree.calls).map fun answers => tree.read answers) = tree.deferred := by
  refine Deferred.eq_of_read rfl fun answers => tree.read_congr _ answers fun id member => ?_
  simp only [Deferred.among, member, if_true]

namespace Inspecting

def orFallback (fallback : Value) : HostResult → Inspecting Value
  | .ok value => pure value
  | .error _ => pure fallback

def concatenate (parts : List Value) : Inspecting Value := do
  return .text (String.join (← parts.mapM toText))

def tryEvaluate (engine : Engine) (scope : Scope) (source : String) : Trial Expr.Evaluated := do
  let e ← ExceptT.mk (parse source fun result => pure (result.mapError .malformed))
  evalTail engine.registry scope e

theorem orFallback_eq (fallback : Value) (result : HostResult) :
    orFallback fallback result = pure (Engine.orFallback fallback result) := by
  cases result <;> rfl

theorem concatenate_eq (parts : List Value) :
    concatenate parts = pure (Engine.concatenate parts) := by
  rw [concatenate, funext toText_eq, List.mapM_pure]
  rfl

theorem run_tryEvaluate (engine : Engine) (scope : Scope) (source : String) :
    (tryEvaluate engine scope source).run = parse source fun result =>
      pure (result.mapError .malformed >>= fun e => e.evalTail engine.registry scope) := by
  refine congrArg (parse source) (funext fun result => ?_)
  cases result with
  | error e => rfl
  | ok e => exact evalTail_eq engine.registry scope e

end Inspecting

namespace Staged

open Inspecting

def evaluateOr (engine : Engine) (scope : Scope) (fallback : Value) (source : String)
    (journal : Journal) : Staged (Outcome Value × Journal) := do
  match ← (tryEvaluate engine { scope with calls := journal.calls } source).run with
  | .ok (.value value) => return (.ready value, journal)
  | .ok (.call reply) =>
    let entered ← enter journal (some source) reply
    let result ← defer (Deferred.ofCall entered.1) (orFallback fallback)
    return (.pending result, entered.2)
  | .error failure =>
    return (.ready fallback, ← emit journal (.expressionFailed source failure))

def evaluate (engine : Engine) (scope : Scope) (source : String) (journal : Journal) :
    Staged (Outcome Value × Journal) :=
  evaluateOr engine scope engine.settings.sentinel source journal

def evaluateSegments (engine : Engine) (scope : Scope) :
    List Segment → Journal → Staged (List (Outcome Value) × Journal)
  | [], journal => return ([], journal)
  | .text s :: rest, journal => do
    let (parts, journal) ← evaluateSegments engine scope rest journal
    return (.ready (.text s) :: parts, journal)
  | .expr source :: rest, journal => do
    let fallback := .text engine.settings.interpolationError
    let (part, journal) ← evaluateOr engine scope fallback source journal
    let (parts, journal) ← evaluateSegments engine scope rest journal
    return (part :: parts, journal)

def evaluateTemplate (engine : Engine) (scope : Scope) (mode : Mode) (template : String)
    (journal : Journal) : Staged (Outcome Value × Journal) := do
  match ← scan template pure with
  | .literal rest => return (.ready (.text rest), journal)
  | .whole source => evaluate engine scope source journal
  | .interpolated segments =>
    let (parts, journal) ← evaluateSegments engine scope segments journal
    return (← mapOutcome concatenate (Outcome.all parts), journal)
  | .plain =>
    match mode with
    | .structural => return (.ready (.text template), journal)
    | .declaration => evaluate engine scope template journal

def visit (engine : Engine) (scope : Scope) (state : Walk × Journal) (leaf : Path × String) :
    Staged (Walk × Journal) := do
  let scope := { scope with output := some state.1.tree }
  let (outcome, journal) ← evaluateTemplate engine scope .structural leaf.2 state.2
  return (← write journal.calls state.1 leaf.1 outcome, journal)

def run (engine : Engine) (scope : Scope) (tree : Value) (journal : Journal) :
    Staged (Walk × Journal) := do
  let leaves ← strings [] tree
  let start := ({ tree := ← ofValue tree }, journal)
  leaves.foldlM (visit engine scope) start

/-- A run and the turns after it. -/
def walk (engine : Engine) (scope : Scope) (tree : Value) (journal : Journal)
    (turns : List Turn) : Staged (Walk × Journal) := do
  takeAll turns (← run engine scope tree journal)

def outcome (calls : Calls) (walk : Walk) : Staged (Outcome Value) := do
  if walk.awaited.isEmpty then return .ready (← toValue calls walk.tree)
  else
    let ids ← callsOf walk.tree
    return .pending (← defer (.among ids) fun answers => read answers walk.tree)

def evaluateStructure (engine : Engine) (scope : Scope) (tree : Value) (journal : Journal) :
    Staged (Outcome Value × Journal) := do
  let (walk, journal) ← run engine scope tree journal
  return (← outcome journal.calls walk, journal)

def evaluateEntry (engine : Engine) (scope : Scope) (value : Value) (journal : Journal) :
    Staged (Outcome Value × Journal) :=
  match value with
  | .text template => evaluateTemplate engine scope .declaration template journal
  | .array items => evaluateStructure engine scope (.array items) journal
  | .object fields => evaluateStructure engine scope (.object fields) journal
  | value => return (.ready value, journal)

def extend (engine : Engine) (host : HostState) (statics : Option Environment)
    (state : Environment × Journal) (entry : Option String × Value) :
    Staged (Environment × Journal) := do
  let scope ← entryScope host statics state.1
  let (outcome, journal) ← evaluateEntry engine scope entry.2 state.2
  return (← addEntry state.1 entry.1 (← ofOutcome journal.calls outcome), journal)

def build (engine : Engine) (host : HostState) (tier : Tier) (statics : Option Environment)
    (globals locals : Option Declaration) (journal : Journal) :
    Staged (Environment × Journal) := do
  let entries ← order globals locals
  entries.foldlM (extend engine host statics) ({ tier }, journal)

section

variable (engine : Engine) (scope : Scope)

theorem answer_evaluateOr (fallback : Value) (source : String) (journal : Journal) :
    (evaluateOr engine scope fallback source journal).answer .standard =
      engine.evaluateOr scope fallback source journal := by
  have tried : (tryEvaluate engine { scope with calls := journal.calls } source).run.answer
      .standard = engine.tryEvaluate { scope with calls := journal.calls } source := by
    rw [run_tryEvaluate]
    rfl
  rw [evaluateOr, answer_bind, answer_lift, tried, Engine.evaluateOr]
  cases engine.tryEvaluate { scope with calls := journal.calls } source with
  | error failure => rfl
  | ok evaluated =>
    cases evaluated with
    | value value => rfl
    | call reply =>
      dsimp only
      rw [enter_eq, funext (orFallback_eq fallback)]
      rfl

theorem answer_evaluateSegments (segments : List Segment) (journal : Journal) :
    (evaluateSegments engine scope segments journal).answer .standard =
      engine.evaluateSegments scope segments journal := by
  induction segments generalizing journal with
  | nil => rfl
  | cons segment rest ih =>
    cases segment with
    | text s =>
      rw [evaluateSegments, answer_bind, ih]
      rfl
    | expr source =>
      rw [evaluateSegments, answer_bind, answer_evaluateOr, answer_bind, ih]
      rfl

theorem answer_evaluateTemplate (mode : Mode) (template : String) (journal : Journal) :
    (evaluateTemplate engine scope mode template journal).answer .standard =
      engine.evaluateTemplate scope mode template journal := by
  have kind : (scan template pure : Inspecting Template).answer .standard =
      Template.classify template := rfl
  unfold evaluateTemplate Engine.evaluateTemplate
  rw [answer_bind, answer_lift, kind]
  cases Template.classify template with
  | literal rest => rfl
  | whole source => exact answer_evaluateOr engine scope _ source journal
  | interpolated segments =>
    simp only [answer_bind, answer_evaluateSegments, funext concatenate_eq,
      answer_mapOutcome_pure, answer_pure]
  | plain =>
    cases mode with
    | structural => rfl
    | declaration => exact answer_evaluateOr engine scope _ template journal

theorem answer_run (tree : Value) (journal : Journal) :
    (run engine scope tree journal).answer .standard = Walk.run engine scope tree journal := by
  have step (state : Walk × Journal) (leaf : Path × String) :
      (visit engine scope state leaf).answer .standard = Walk.visit engine scope state leaf := by
    simp only [visit, answer_bind, answer_evaluateTemplate, write_eq, answer_lift,
      Inspecting.answer_pure, answer_pure, Walk.visit]
  simp only [run, answer_bind, strings_eq, ofValue_eq, answer_lift, Inspecting.answer_pure,
    answer_foldlM, step, Walk.run]

theorem answer_walk (tree : Value) (journal : Journal) (turns : List Turn) :
    (walk engine scope tree journal turns).answer .standard =
      Turn.takeAll turns (Walk.run engine scope tree journal) := by
  simp only [walk, answer_bind, answer_run, takeAll_eq, answer_lift, Inspecting.answer_pure]

theorem answer_outcome (reader : Reader) (calls : Calls) (walk : Walk) :
    (outcome calls walk).answer reader = walk.outcome calls := by
  unfold outcome Walk.outcome Walk.isDone
  cases walk.awaited.isEmpty with
  | true => simp [toValue_eq]
  | false =>
    simp [callsOf_eq, read_eq, Partial.map_among]

theorem answer_evaluateEntry (value : Value) (journal : Journal) :
    (evaluateEntry engine scope value journal).answer .standard =
      Environment.evaluateEntry engine scope value journal := by
  have structured (tree : Value) : (evaluateStructure engine scope tree journal).answer .standard =
      engine.evaluateStructure scope tree journal := by
    simp only [evaluateStructure, answer_bind, answer_run, answer_outcome, answer_pure,
      Engine.evaluateStructure]
  cases value with
  | text template => exact answer_evaluateTemplate engine scope .declaration template journal
  | array items => exact structured (.array items)
  | object fields => exact structured (.object fields)
  | null | bool | number => rfl

end

theorem answer_build (engine : Engine) (host : HostState) (tier : Tier)
    (statics : Option Environment) (globals locals : Option Declaration) (journal : Journal) :
    (build engine host tier statics globals locals journal).answer .standard =
      Environment.build engine host tier statics globals locals journal := by
  have step (state : Environment × Journal) (entry : Option String × Value) :
      (extend engine host statics state entry).answer .standard =
        Environment.extend engine host statics state entry := by
    obtain ⟨name, value⟩ := entry
    simp only [extend, answer_bind, entryScope_eq, answer_lift, Inspecting.answer_pure,
      answer_evaluateEntry, ofOutcome_eq, addEntry_eq, answer_pure, Environment.extend]
    cases name <;> rfl
  simp only [build, answer_bind, order_eq, answer_lift, Inspecting.answer_pure, answer_foldlM, step,
    Environment.build]

section

variable (engine : Engine) (scope : Scope) (reader : Reader) (answers : Answers)

theorem inspections_evaluateOr (fallback : Value) (source : String) (journal : Journal) :
    (evaluateOr engine scope fallback source journal).inspections reader answers =
      [.parsed source] := by
  have tried : (tryEvaluate engine { scope with calls := journal.calls } source).run.inspections
      reader = [.parsed source] := by
    rw [run_tryEvaluate]
    rfl
  rw [evaluateOr, inspections_bind, inspections_lift, tried, answer_lift]
  refine congrArg (_ :: ·) ?_
  cases (tryEvaluate engine { scope with calls := journal.calls } source).run.answer reader with
  | error failure => rfl
  | ok evaluated =>
    cases evaluated with
    | value value => rfl
    | call reply =>
      dsimp only
      rw [enter_eq, funext (orFallback_eq fallback)]
      rfl

theorem inspections_evaluateSegments (segments : List Segment) (journal : Journal) :
    (evaluateSegments engine scope segments journal).inspections reader answers =
      (segments.filterMap Segment.source?).map .parsed := by
  induction segments generalizing journal with
  | nil => rfl
  | cons segment rest ih =>
    cases segment with
    | text s =>
      rw [evaluateSegments, inspections_bind, ih]
      exact List.append_nil _
    | expr source =>
      rw [evaluateSegments, inspections_bind, inspections_evaluateOr, inspections_bind, ih]
      exact congrArg (_ :: ·) (List.append_nil _)

theorem inspections_outcome (calls : Calls) (walk : Walk) :
    (outcome calls walk).inspections reader answers = [] := by
  unfold outcome
  cases walk.awaited.isEmpty with
  | true => simp [toValue_eq]
  | false => simp [callsOf_eq, read_eq]

theorem inspections_evaluateTemplate (mode : Mode) (template : String) (journal : Journal) :
    (evaluateTemplate engine scope mode template journal).inspections .standard answers =
      Inspection.ofString mode template := by
  have alone (fallback : Value) (source : String) :=
    inspections_evaluateOr engine scope .standard answers fallback source journal
  have mixed (segments : List Segment) : inspections .standard answers (do
      let (parts, journal) ← evaluateSegments engine scope segments journal
      return (← mapOutcome concatenate (Outcome.all parts), journal)) =
        (segments.filterMap Segment.source?).map .parsed := by
    simp only [inspections_bind, inspections_evaluateSegments, funext concatenate_eq,
      inspections_mapOutcome_pure, inspections_pure, List.append_nil]
  have kind : (scan template pure : Inspecting Template).answer .standard =
      Template.classify template := rfl
  unfold evaluateTemplate
  rw [inspections_bind, inspections_lift, answer_lift, kind, Inspection.ofString]
  refine congrArg (_ :: ·) ?_
  cases mode with
  | structural =>
    rw [Template.expressions, Template.embedded_eq]
    cases Template.classify template with
    | literal rest => rfl
    | plain => rfl
    | whole source => exact alone _ source
    | interpolated segments => exact mixed segments
  | declaration =>
    rw [Template.expressions, Template.declared_eq]
    cases Template.classify template with
    | literal rest => rfl
    | plain => exact alone _ template
    | whole source => exact alone _ source
    | interpolated segments => exact mixed segments

theorem inspections_run (tree : Value) (journal : Journal) :
    (run engine scope tree journal).inspections .standard answers = Inspection.ofTree tree := by
  have step (state : Walk × Journal) (leaf : Path × String) :
      (visit engine scope state leaf).inspections .standard answers =
        Inspection.ofString .structural leaf.2 := by
    simp only [visit, inspections_bind, inspections_evaluateTemplate, write_eq, inspections_lift,
      Inspecting.inspections_pure, inspections_pure, List.append_nil]
  simp only [run, inspections_bind, strings_eq, ofValue_eq, inspections_lift, answer_lift,
    Inspecting.answer_pure, Inspecting.inspections_pure, List.nil_append]
  exact inspections_foldlM _ _ step _ _

theorem inspections_walk (tree : Value) (journal : Journal) (turns : List Turn) :
    (walk engine scope tree journal turns).inspections .standard answers =
      Inspection.ofTree tree := by
  simp only [walk, inspections_bind, inspections_run, takeAll_eq, inspections_lift,
    Inspecting.inspections_pure, List.append_nil]

theorem inspections_evaluateEntry (value : Value) (journal : Journal) :
    (evaluateEntry engine scope value journal).inspections .standard answers =
      Inspection.ofEntry value := by
  have structured (tree : Value) :
      (evaluateStructure engine scope tree journal).inspections .standard answers =
        Inspection.ofTree tree := by
    simp only [evaluateStructure, inspections_bind, inspections_run, inspections_outcome,
      inspections_pure, List.append_nil]
  cases value with
  | text template =>
    exact inspections_evaluateTemplate engine scope answers .declaration template journal
  | array items => exact structured (.array items)
  | object fields => exact structured (.object fields)
  | null | bool | number => rfl

end

theorem inspections_build (engine : Engine) (host : HostState) (tier : Tier)
    (statics : Option Environment) (globals locals : Option Declaration) (journal : Journal)
    (answers : Answers) :
    (build engine host tier statics globals locals journal).inspections .standard answers =
      (Environment.order (Merged.merge globals locals)).flatMap fun entry =>
        Inspection.ofEntry entry.2 := by
  have step (state : Environment × Journal) (entry : Option String × Value) :
      (extend engine host statics state entry).inspections .standard answers =
        Inspection.ofEntry entry.2 := by
    simp only [extend, inspections_bind, entryScope_eq, inspections_lift,
      Inspecting.inspections_pure, inspections_evaluateEntry, ofOutcome_eq, addEntry_eq,
      inspections_pure, List.append_nil, List.nil_append]
  simp only [build, inspections_bind, order_eq, inspections_lift, answer_lift,
    Inspecting.answer_pure, Inspecting.inspections_pure, List.nil_append]
  exact inspections_foldlM _ _ step _ _

end Staged

open Inspection

/-- Data is never evaluated. Evaluating an expression looks into nothing. A walk scans the strings
of its tree, in document order, and reads the expressions that are embedded in them; the building
of variables scans the strings of the entries, in their merged order, and also reads an entry
without delimiters as a whole. Engine, host, variables, journal, the tree that is being rewritten
and the results that arrive later have no say in it. So it makes no difference what a reader would
find in any other text. -/
theorem inspects_configuration_alone :
    (∀ (registry : Registry) (scope : Scope) (e : Expr) (reader : Reader),
      let evaluation := (Inspecting.evalTail registry scope e).run
      evaluation.answer reader = e.evalTail registry scope ∧ evaluation.inspections reader = []) ∧
    (∀ (tree : Value) (engine : Engine) (scope : Scope) (journal : Journal) (turns : List Turn),
      let walk := Staged.walk engine scope tree journal turns
      let finished := Turn.takeAll turns (Walk.run engine scope tree journal)
      let seen := ofTree tree
      walk.answer .standard = finished ∧
        (∀ answers, walk.inspections .standard answers = seen) ∧
        seen.filterMap scanned? = (tree.strings []).map (·.2) ∧
        seen.filterMap parsed? =
          ((tree.strings []).flatMap fun leaf => Template.embedded leaf.2) ∧
        ∀ reader : Reader, (∀ inspection ∈ seen, reader.Agrees .standard inspection) →
          walk.answer reader = finished ∧ ∀ answers, walk.inspections reader answers = seen) ∧
    ∀ (globals locals : Option Declaration) (engine : Engine) (host : HostState) (tier : Tier)
      (statics : Option Environment) (journal : Journal),
      let building := Staged.build engine host tier statics globals locals journal
      let built := Environment.build engine host tier statics globals locals journal
      let entries := Environment.order (Merged.merge globals locals)
      let seen := entries.flatMap fun entry => ofEntry entry.2
      building.answer .standard = built ∧
        (∀ answers, building.inspections .standard answers = seen) ∧
        seen.filterMap scanned? =
          (entries.flatMap fun entry => (entry.2.strings []).map (·.2)) ∧
        seen.filterMap parsed? = (entries.flatMap fun entry => match entry.2 with
          | .text s => Template.declared s
          | tree => (tree.strings []).flatMap fun leaf => Template.embedded leaf.2) ∧
        ∀ reader : Reader, (∀ inspection ∈ seen, reader.Agrees .standard inspection) →
          building.answer reader = built ∧
            ∀ answers, building.inspections reader answers = seen := by
  refine ⟨?_, ?_, ?_⟩
  · intro registry scope e reader evaluation
    have known : evaluation = pure (e.evalTail registry scope) :=
      Inspecting.evalTail_eq registry scope e
    rw [known]
    exact ⟨rfl, rfl⟩
  · intro tree engine scope journal turns walk finished seen
    have answer_eq : walk.answer .standard = finished :=
      Staged.answer_walk engine scope tree journal turns
    have seen_eq (answers : Answers) : walk.inspections .standard answers = seen :=
      Staged.inspections_walk engine scope answers tree journal turns
    refine ⟨answer_eq, seen_eq, scanned_ofTree tree, parsed_ofTree tree, ?_⟩
    intro reader agree
    obtain ⟨same, trace⟩ := Staged.answer_of_agrees .standard reader walk
      fun answers inspection member => agree inspection (seen_eq answers ▸ member)
    exact ⟨same.trans answer_eq, fun answers => (trace answers).trans (seen_eq answers)⟩
  · intro globals locals engine host tier statics journal building built entries seen
    have answer_eq : building.answer .standard = built :=
      Staged.answer_build engine host tier statics globals locals journal
    have seen_eq (answers : Answers) : building.inspections .standard answers = seen :=
      Staged.inspections_build engine host tier statics globals locals journal answers
    refine ⟨answer_eq, seen_eq, ?_, ?_, ?_⟩
    · simp only [seen, List.filterMap_flatMap, scanned_ofEntry]
    · simp only [seen, List.filterMap_flatMap, parsed_ofEntry]
    · intro reader agree
      obtain ⟨same, trace⟩ := Staged.answer_of_agrees .standard reader building
        fun answers inspection member => agree inspection (seen_eq answers ▸ member)
      exact ⟨same.trans answer_eq, fun answers => (trace answers).trans (seen_eq answers)⟩

theorem classify_user : Template.classify "<$ user $>" = .whole "user" :=
  Template.classify_delimited (by cbv) (by cbv)

theorem classify_greeting :
    Template.classify "<$ later(output.name) $>" = .whole "later(output.name)" :=
  Template.classify_delimited (by cbv) (by cbv)

theorem parse_greeting :
    Expr.parse "later(output.name)" = .ok (.call "later" [.member (.name "output") "name"]) := by
  cbv

theorem evalTail_greeting {scope : Scope} {shown name : Value}
    (output : scope.lookup "output" = .ok shown) (named : shown.property "name" = .ok name) :
    Expr.evalTail Expr.gated scope (.call "later" [.member (.name "output") "name"]) =
      .ok (.call (.waiting "gate")) := by
  have found : Expr.gated.find? "later" = some (.async fun _ => .waiting "gate") :=
    Registry.find?_register_self {} "later" "later" _ rfl
  have values : Expr.evalAll Expr.gated scope [.member (.name "output") "name"] = .ok [name] := by
    simp only [Expr.evalAll, Expr.eval, output, named, ok_bind]
    rfl
  exact (Expr.EndsIn.starts (.call values) found).1

/-- A user whose name looks like a template. -/
def visitor : Scope where
  host := { user := .text "<$ nope $>" }

def greeting : Value :=
  .object [("name", .text "<$ user $>"), ("greeting", .text "<$ later(output.name) $>")]

/-- Finds nothing in the name of the user and in the answer of the call. -/
def Reader.incurious : Reader where
  classify s := if s ∈ ["<$ nope $>", "<$ hello $>"] then .plain else Template.classify s
  parse s := if s ∈ ["nope", "hello"] then .ok .null else Expr.parse s

theorem ofTree_greeting : ofTree greeting = [.scanned "<$ user $>", .parsed "user",
    .scanned "<$ later(output.name) $>", .parsed "later(output.name)"] := by
  simp only [ofTree, greeting, Value.strings, Value.fieldStrings, List.append_nil, List.cons_append,
    List.nil_append, List.flatMap_cons, List.flatMap_nil, ofString, Template.expressions,
    Template.embedded_eq, classify_user, classify_greeting]
  rfl

theorem visit_user : Walk.visit { registry := Expr.gated } visitor
    ({ tree := .ofValue greeting }, {}) ([.key "name"], "<$ user $>") = ({
      tree := .object [("name", .ready (.text "<$ nope $>")),
        ("greeting", .ready (.text "<$ later(output.name) $>"))] }, {}) := by
  have user : Expr.parse "user" = .ok (.name "user") := by cbv
  simp only [Walk.visit, Engine.evaluateTemplate, classify_user, Engine.evaluate,
    Engine.evaluateOr, Engine.tryEvaluate, user, Except.mapError, ok_bind]
  rfl

theorem run_greeting : Walk.run { registry := Expr.gated } visitor greeting {} = ({
    tree := .object [("name", .ready (.text "<$ nope $>")),
      ("greeting", .pending ((Deferred.ofCall 0).map (Engine.orFallback .null)))]
    awaited := [([.key "greeting"], (Deferred.ofCall 0).map (Engine.orFallback .null))] },
    { calls := [⟨some "later(output.name)", .waiting "gate"⟩] }) := by
  have leaves : greeting.strings [] = [([.key "name"], "<$ user $>"),
      ([.key "greeting"], "<$ later(output.name) $>")] := rfl
  rw [Walk.run, leaves, List.foldl_cons, visit_user, List.foldl_cons, List.foldl_nil]
  simp only [Walk.visit, Engine.evaluateTemplate, classify_greeting, Engine.evaluate,
    Engine.evaluateOr, Engine.tryEvaluate, parse_greeting, Except.mapError, ok_bind]
  -- `output` shows the name of the user, which stands in the tree by now.
  rw [evalTail_greeting rfl rfl]
  rfl

/-- The name of a user and the answer of a call may look like templates: they are written into the
tree as they are, and a reader that finds nothing in them comes to the same tree. -/
theorem inspects_configuration_beside_user :
    let turns : List Turn := [.release "gate" (.ok (.text "<$ hello $>")), .poll]
    let walk := Staged.walk { registry := Expr.gated } visitor greeting {} turns
    (∀ inspection ∈ ofTree greeting, Reader.incurious.Agrees .standard inspection) ∧
      (∀ answers, walk.inspections .incurious answers =
        [.scanned "<$ user $>", .parsed "user", .scanned "<$ later(output.name) $>",
          .parsed "later(output.name)"]) ∧
      (walk.answer .incurious).1.tree =
        .object [("name", .ready (.text "<$ nope $>")),
          ("greeting", .ready (.text "<$ hello $>"))] := by
  intro turns walk
  have agree : ∀ inspection ∈ ofTree greeting, Reader.incurious.Agrees .standard inspection := by
    rw [ofTree_greeting]
    simp [Reader.Agrees, Reader.incurious, Reader.standard]
  obtain ⟨same, trace⟩ := (inspects_configuration_alone.2.1 greeting { registry := Expr.gated }
    visitor {} turns).2.2.2.2 .incurious agree
  refine ⟨agree, fun answers => (trace answers).trans ofTree_greeting, ?_⟩
  rw [same, run_greeting]
  rfl

end LiveConfig
