import Mathlib.Data.List.Nodup
import LiveConfig.Proofs.Evaluation.Reading
import LiveConfig.Engine

set_option autoImplicit false

/- Strings of a configuration in two stages. What a string comes to is settled by its scope alone:
its draft, a piece for each embedded expression. Evaluating the string then enters the draft in
the journal, which gives its calls the next numbers and reports its failures. -/

namespace LiveConfig

/-- What an embedded expression comes to. A call and a failure keep the source and the fallback. -/
inductive Piece where
  | value (v : Value)
  | call (source : String) (fallback : Value) (reply : Reply)
  | failed (source : String) (fallback : Value) (failure : Failure)

namespace Piece

def started : Piece → Calls
  | .value _ => []
  | .call source _ reply => [⟨some source, .ofReply reply⟩]
  | .failed _ _ _ => []

def reported : Piece → List Event
  | .value _ => []
  | .call _ _ _ => []
  | .failed source _ failure => [.expressionFailed source failure]

/-- The outcome when the next call has the given number. -/
def outcome (id : CallId) : Piece → Outcome Value
  | .value v => .ready v
  | .call _ fallback _ => .pending ((Deferred.ofCall id).map (Engine.orFallback fallback))
  | .failed _ fallback _ => .ready fallback

def outcomes (id : CallId) : List Piece → List (Outcome Value)
  | [] => []
  | piece :: rest => piece.outcome id :: outcomes (id + piece.started.length) rest

end Piece

/-- What a string comes to: one result, or some joined to a text. -/
inductive Draft where
  | single (piece : Piece)
  | joined (pieces : List Piece)

namespace Draft

def pieces : Draft → List Piece
  | .single piece => [piece]
  | .joined pieces => pieces

def started (draft : Draft) : Calls :=
  draft.pieces.flatMap Piece.started

def reported (draft : Draft) : List Event :=
  draft.pieces.flatMap Piece.reported

def outcome (id : CallId) : Draft → Outcome Value
  | .single piece => piece.outcome id
  | .joined pieces => (Outcome.all (Piece.outcomes id pieces)).map Engine.concatenate

end Draft

/-- The calls of a draft are started and its failures reported. -/
def Journal.enter (journal : Journal) (draft : Draft) : Journal where
  calls := journal.calls ++ draft.started
  events := journal.events ++ draft.reported

namespace Engine

def piece (engine : Engine) (scope : Scope) (fallback : Value) (source : String) : Piece :=
  match engine.tryEvaluate scope source with
  | .ok (.value v) => .value v
  | .ok (.call reply) => .call source fallback reply
  | .error failure => .failed source fallback failure

def segmentPiece (engine : Engine) (scope : Scope) : Segment → Piece
  | .text s => .value (.text s)
  | .expr source => engine.piece scope (.text engine.settings.interpolationError) source

/-- What a string comes to in a scope. -/
def draft (engine : Engine) (scope : Scope) (mode : Mode) (template : String) : Draft :=
  match Template.classify template with
  | .literal rest => .single (.value (.text rest))
  | .whole source => .single (engine.piece scope engine.settings.sentinel source)
  | .interpolated segments => .joined (segments.map (engine.segmentPiece scope))
  | .plain =>
    match mode with
    | .structural => .single (.value (.text template))
    | .declaration => .single (engine.piece scope engine.settings.sentinel template)

end Engine

/-- None of the calls is observed. -/
def Calls.Unobserved (calls : Calls) : Prop :=
  ∀ call ∈ calls, ∀ result, call.progress ≠ .observed result

theorem Calls.Unobserved.append {first last : Calls} (before : first.Unobserved)
    (after : last.Unobserved) : Calls.Unobserved (first ++ last) := by
  intro call member
  rcases List.mem_append.mp member with early | late
  · exact before call early
  · exact after call late

theorem Piece.unobserved_started (piece : Piece) : piece.started.Unobserved := by
  cases piece with
  | value v => exact nofun
  | failed source fallback failure => exact nofun
  | call source fallback reply =>
    intro call member
    obtain rfl := List.mem_singleton.mp member
    cases reply <;> exact nofun

theorem Draft.unobserved_started (draft : Draft) : draft.started.Unobserved := by
  intro call member
  obtain ⟨piece, _, inside⟩ := List.mem_flatMap.mp member
  exact piece.unobserved_started call inside

theorem Calls.Unobserved.result?_eq_none {calls : Calls} (fresh : calls.Unobserved) (id : CallId) :
    calls.result? id = none := by
  unfold Calls.result?
  split
  · next blame result found => exact absurd rfl (fresh _ (List.mem_of_getElem? found) result)
  · rfl

theorem Calls.result?_append {fresh : Calls} (unobserved : fresh.Unobserved) (calls : Calls) :
    Calls.result? (calls ++ fresh) = calls.result? := by
  funext id
  by_cases old : id < calls.length
  · simp only [Calls.result?, List.getElem?_append_left old]
  · have beyond : calls.length ≤ id := Nat.le_of_not_lt old
    have none := unobserved.result?_eq_none (id - calls.length)
    have missing : calls.result? id = .none := by
      simp only [Calls.result?, List.getElem?_eq_none beyond]
    rw [missing, ← none]
    simp only [Calls.result?, List.getElem?_append_right beyond]

theorem Journal.result?_enter (journal : Journal) (draft : Draft) :
    (journal.enter draft).calls.result? = journal.calls.result? :=
  Calls.result?_append draft.unobserved_started journal.calls

namespace Engine

section

variable (engine : Engine)

theorem tryEvaluate_congr {scope scope' : Scope} (alike : scope.Alike scope') {source : String}
    (output : (∀ e, Expr.parse source = .ok e → e.Blind scope) ∨
      scope.outputValue? = scope'.outputValue?) :
    engine.tryEvaluate scope source = engine.tryEvaluate scope' source := by
  unfold tryEvaluate
  cases parsed : Expr.parse source with
  | error e => rfl
  | ok e =>
    have agree := Expr.agree_of_alike alike (output.imp_left fun blind => blind e parsed)
      engine.registry
    exact Expr.evalTail_congr e agree fun _ _ _ => rfl

theorem piece_congr {scope scope' : Scope} (alike : scope.Alike scope') (fallback : Value)
    {source : String} (output : (∀ e, Expr.parse source = .ok e → e.Blind scope) ∨
      scope.outputValue? = scope'.outputValue?) :
    engine.piece scope fallback source = engine.piece scope' fallback source := by
  simp only [piece, engine.tryEvaluate_congr alike output]

theorem evaluateOr_eq (scope : Scope) (fallback : Value) (source : String) (journal : Journal) :
    let piece := engine.piece { scope with calls := journal.calls } fallback source
    engine.evaluateOr scope fallback source journal =
      (piece.outcome journal.calls.length, journal.enter (.single piece)) := by
  unfold evaluateOr piece
  cases engine.tryEvaluate { scope with calls := journal.calls } source with
  | error failure =>
    simp [Journal.enter, Journal.emit, Draft.started, Draft.reported, Draft.pieces, Piece.outcome,
      Piece.started, Piece.reported]
  | ok evaluated =>
    cases evaluated with
    | value v =>
      simp [Journal.enter, Draft.started, Draft.reported, Draft.pieces, Piece.outcome,
        Piece.started, Piece.reported]
    | call reply =>
      simp [Journal.enter, Journal.start, Draft.started, Draft.reported, Draft.pieces,
        Piece.outcome, Piece.started, Piece.reported]

/-- Later segments see no more than the first one: calls that are started are not observed. -/
theorem evaluateSegments_eq (scope : Scope) (segments : List Segment) (journal : Journal) :
    let pieces := segments.map (engine.segmentPiece { scope with calls := journal.calls })
    engine.evaluateSegments scope segments journal =
      (Piece.outcomes journal.calls.length pieces, journal.enter (.joined pieces)) := by
  induction segments generalizing journal with
  | nil =>
    simp [evaluateSegments, Piece.outcomes, Journal.enter, Draft.started, Draft.reported,
      Draft.pieces]
  | cons segment rest ih =>
    cases segment with
    | text s =>
      simp only [evaluateSegments, ih]
      simp [Piece.outcomes, segmentPiece, Piece.outcome, Journal.enter, Draft.started,
        Draft.reported, Draft.pieces, Piece.started, Piece.reported]
    | expr source =>
      simp only [evaluateSegments, engine.evaluateOr_eq scope _ source journal, ih]
      generalize drafted : engine.piece { scope with calls := journal.calls }
        (.text engine.settings.interpolationError) source = first
      have results := journal.result?_enter (.single first)
      have same (segment : Segment) :
          engine.segmentPiece { scope with calls := (journal.enter (.single first)).calls }
            segment = engine.segmentPiece { scope with calls := journal.calls } segment := by
        cases segment with
        | text s => rfl
        | expr source =>
          exact engine.piece_congr (scope.alike_calls results) _
            (Or.inr (scope.outputValue?_calls results))
      rw [List.map_congr_left fun segment _ => same segment]
      simp [Piece.outcomes, segmentPiece, drafted, Journal.enter, Draft.started, Draft.reported,
        Draft.pieces]

/-- A string is evaluated by entering what it comes to. -/
theorem evaluateTemplate_eq (scope : Scope) (mode : Mode) (template : String) (journal : Journal) :
    let draft := engine.draft { scope with calls := journal.calls } mode template
    engine.evaluateTemplate scope mode template journal =
      (draft.outcome journal.calls.length, journal.enter draft) := by
  have unchanged (v : Value) : journal.enter (.single (.value v)) = journal := by
    simp [Journal.enter, Draft.started, Draft.reported, Draft.pieces, Piece.started,
      Piece.reported]
  unfold evaluateTemplate draft
  cases Template.classify template with
  | literal rest => simp only [unchanged, Draft.outcome, Piece.outcome]
  | whole source => exact engine.evaluateOr_eq scope _ source journal
  | interpolated segments =>
    simp only [engine.evaluateSegments_eq scope segments journal, Draft.outcome]
  | plain =>
    cases mode with
    | structural => simp only [unchanged, Draft.outcome, Piece.outcome]
    | declaration => exact engine.evaluateOr_eq scope _ template journal

end

end Engine

namespace Template

/-- The sources of the expressions in a string of a configuration. -/
def sources : Template → List String
  | .literal _ => []
  | .whole source => [source]
  | .interpolated segments =>
    segments.filterMap fun
      | .expr source => some source
      | .text _ => none
  | .plain => []

theorem splitChars_of_cut {text before body source after : List Char}
    (opened : cutOpen text = some (before, body))
    (closed : cutClose .outside body = some (source, after)) :
    splitChars text =
      textSegment before ++ .expr (String.ofList (Text.trim source)) :: splitChars after := by
  rw [splitChars]
  split
  · next absent => simp [absent] at opened
  · next before' body' opened' =>
    obtain ⟨rfl, rfl⟩ : before' = before ∧ body' = body := by simpa [opened'] using opened
    split
    · next absent => simp [absent] at closed
    · next source' after' closed' =>
      obtain ⟨rfl, rfl⟩ : source' = source ∧ after' = after := by simpa [closed'] using closed
      rfl

theorem classify_eq_whole {s : String} {body source : List Char}
    (unmarked : escapeMark.isPrefixOf s.toList = false)
    (opened : cutOpen s.toList = some ([], body))
    (closed : cutClose .outside body = some (source, [])) :
    classify s = .whole (String.ofList (Text.trim source)) := by
  have ending : splitChars [] = [] := by
    rw [splitChars]
    rfl
  rw [classify, unmarked, split, splitChars_of_cut opened closed, ending]
  rfl

theorem classify_delimited {s source : String} (opened : ['<', '$'].isPrefixOf s.toList = true)
    (closed : (cutClose .outside (s.toList.drop 2)).map
      (fun cut => (String.ofList (Text.trim cut.1), cut.2)) = some (source, [])) :
    classify s = .whole source := by
  obtain ⟨body, chars⟩ := List.isPrefixOf_iff_prefix.mp opened
  obtain ⟨⟨content, rest⟩, cut, trimmed⟩ := Option.map_eq_some_iff.mp closed
  obtain ⟨rfl, rfl⟩ : String.ofList (Text.trim content) = source ∧ rest = [] := by
    simpa using trimmed
  rw [← chars] at cut
  refine classify_eq_whole ?_ ?_ cut
  · rw [← chars]
    rfl
  · rw [← chars]
    rfl

/-- The string holds the expression. -/
def Embeds (s : String) (e : Expr) : Prop :=
  ∃ source ∈ (classify s).sources, Expr.parse source = .ok e

end Template

/-- In scopes that read alike a string comes to the same. The tree that is being rewritten does not
matter to a string of a configuration whose expressions do not read it. -/
theorem Engine.draft_congr (engine : Engine) {scope scope' : Scope} (alike : scope.Alike scope')
    (mode : Mode) {template : String}
    (output : (mode = .structural ∧ ∀ e, Template.Embeds template e → e.Blind scope) ∨
      scope.outputValue? = scope'.outputValue?) :
    engine.draft scope mode template = engine.draft scope' mode template := by
  have embedded (source : String) (inside : source ∈ (Template.classify template).sources) :
      (∀ e, Expr.parse source = .ok e → e.Blind scope) ∨
        scope.outputValue? = scope'.outputValue? :=
    output.imp_left fun blind e parsed => blind.2 e ⟨source, inside, parsed⟩
  unfold draft
  cases classified : Template.classify template with
  | literal rest => rfl
  | whole source =>
    have inside : source ∈ (Template.classify template).sources := by
      simp [classified, Template.sources]
    simp only [engine.piece_congr alike _ (embedded source inside)]
  | interpolated segments =>
    refine congrArg Draft.joined (List.map_congr_left fun segment member => ?_)
    cases segment with
    | text s => rfl
    | expr source =>
      have inside : source ∈ (Template.classify template).sources := by
        rw [classified]
        exact List.mem_filterMap.mpr ⟨_, member, rfl⟩
      exact engine.piece_congr alike _ (embedded source inside)
  | plain =>
    cases mode with
    | structural => rfl
    | declaration =>
      have read := output.resolve_left fun blind => nomatch blind.1
      simp only [engine.piece_congr alike _ (Or.inr read)]

namespace Outcome

variable {α : Type}

theorem mapM_ready?_map (values : List α) :
    (values.map Outcome.ready).mapM ready? = some values := by
  induction values with
  | nil => rfl
  | cons value rest ih => simp [List.mapM_cons, ready?, ih]

theorem ready_or_pending (outcomes : List (Outcome α)) :
    (∃ values : List α, outcomes = values.map .ready) ∨
      (∃ outcome ∈ outcomes, outcome.isPending = true) ∧ outcomes.mapM ready? = none := by
  induction outcomes with
  | nil => exact Or.inl ⟨[], rfl⟩
  | cons outcome rest ih =>
    cases outcome with
    | pending d =>
      exact Or.inr ⟨⟨_, List.mem_cons_self, rfl⟩, by simp [List.mapM_cons, ready?]⟩
    | ready value =>
      rcases ih with ⟨values, rfl⟩ | ⟨⟨later, member, pending⟩, missing⟩
      · exact Or.inl ⟨value :: values, rfl⟩
      · exact Or.inr ⟨⟨later, List.mem_cons_of_mem _ member, pending⟩,
          by simp [List.mapM_cons, ready?, missing]⟩

theorem all_cases (outcomes : List (Outcome α)) :
    (∃ values : List α, outcomes = values.map .ready ∧ all outcomes = .ready values) ∨
      (∃ outcome ∈ outcomes, outcome.isPending = true) ∧
        all outcomes = .pending (gather outcomes) := by
  rcases ready_or_pending outcomes with ⟨values, rfl⟩ | ⟨pending, missing⟩
  · exact Or.inl ⟨values, rfl, by simp only [all, mapM_ready?_map]⟩
  · exact Or.inr ⟨pending, by simp only [all, missing]⟩

theorem calls_all (outcomes : List (Outcome α)) :
    (all outcomes).calls = outcomes.flatMap calls := by
  rcases all_cases outcomes with ⟨values, rfl, ready⟩ | ⟨_, waiting⟩
  · rw [ready]
    simp [calls]
  · rw [waiting]
    rfl

theorem read_all (answers : Answers) (outcomes : List (Outcome α)) :
    (all outcomes).read answers = outcomes.map (read answers) := by
  rcases all_cases outcomes with ⟨values, rfl, ready⟩ | ⟨_, waiting⟩
  · rw [ready]
    simp [read, Function.comp_def]
  · rw [waiting]
    rfl

theorem isPending_all (outcomes : List (Outcome α)) :
    (all outcomes).isPending = outcomes.any isPending := by
  rcases all_cases outcomes with ⟨values, rfl, ready⟩ | ⟨pending, waiting⟩
  · rw [ready]
    simp [isPending]
  · rw [waiting]
    exact (List.any_eq_true.mpr pending).symm

end Outcome

namespace Piece

theorem calls_outcome (id : CallId) (piece : Piece) :
    (piece.outcome id).calls = List.range' id piece.started.length := by
  cases piece <;> rfl

theorem isPending_outcome (id : CallId) (piece : Piece) :
    (piece.outcome id).isPending = !piece.started.isEmpty := by
  cases piece <;> rfl

theorem calls_outcomes (id : CallId) (pieces : List Piece) :
    (outcomes id pieces).flatMap Outcome.calls =
      List.range' id (pieces.flatMap started).length := by
  induction pieces generalizing id with
  | nil => rfl
  | cons piece rest ih =>
    rw [outcomes, List.flatMap_cons, List.flatMap_cons, calls_outcome, ih, List.length_append,
      List.range'_append_1]

theorem isPending_outcomes (id : CallId) (pieces : List Piece) :
    (outcomes id pieces).any Outcome.isPending = !(pieces.flatMap started).isEmpty := by
  induction pieces generalizing id with
  | nil => rfl
  | cons piece rest ih =>
    rw [outcomes, List.any_cons, List.flatMap_cons, isPending_outcome, ih]
    cases piece.started <;> simp

theorem read_outcome_add (id more : CallId) (answers : Answers) (piece : Piece) :
    (piece.outcome (id + more)).read answers =
      (piece.outcome more).read fun n => answers (id + n) := by
  cases piece <;> rfl

theorem read_outcomes_add (id more : CallId) (answers : Answers) (pieces : List Piece) :
    (outcomes (id + more) pieces).map (Outcome.read answers) =
      (outcomes more pieces).map (Outcome.read fun n => answers (id + n)) := by
  induction pieces generalizing more with
  | nil => rfl
  | cons piece rest ih =>
    rw [outcomes, outcomes, List.map_cons, List.map_cons, read_outcome_add, Nat.add_assoc, ih]

end Piece

namespace Draft

theorem calls_outcome (id : CallId) (draft : Draft) :
    (draft.outcome id).calls = List.range' id draft.started.length := by
  cases draft with
  | single piece =>
    rw [outcome, Piece.calls_outcome, started, pieces, List.flatMap_singleton]
  | joined pieces =>
    have map_calls (o : Outcome (List Value)) :
        (o.map Engine.concatenate).calls = o.calls := by cases o <;> rfl
    rw [outcome, map_calls, Outcome.calls_all, Piece.calls_outcomes]
    rfl

theorem isPending_outcome (id : CallId) (draft : Draft) :
    (draft.outcome id).isPending = !draft.started.isEmpty := by
  cases draft with
  | single piece =>
    rw [outcome, Piece.isPending_outcome, started, pieces, List.flatMap_singleton]
  | joined pieces =>
    have map_isPending (o : Outcome (List Value)) :
        (o.map Engine.concatenate).isPending = o.isPending := by cases o <;> rfl
    rw [outcome, map_isPending, Outcome.isPending_all, Piece.isPending_outcomes]
    rfl

theorem read_outcome_add (id : CallId) (answers : Answers) (draft : Draft) :
    (draft.outcome id).read answers = (draft.outcome 0).read fun n => answers (id + n) := by
  cases draft with
  | single piece => exact piece.read_outcome_add id 0 answers
  | joined pieces =>
    have map_read (answers : Answers) (o : Outcome (List Value)) :
        (o.map Engine.concatenate).read answers = Engine.concatenate (o.read answers) := by
      cases o <;> rfl
    rw [outcome, outcome, map_read, map_read, Outcome.read_all, Outcome.read_all]
    exact congrArg Engine.concatenate (Piece.read_outcomes_add id 0 answers pieces)

theorem read_outcome_congr (draft : Draft) {id id' : CallId} {answers answers' : Answers}
    (same : ∀ k < draft.started.length, answers (id + k) = answers' (id' + k)) :
    (draft.outcome id).read answers = (draft.outcome id').read answers' := by
  rw [draft.read_outcome_add id, draft.read_outcome_add id']
  refine Outcome.read_congr _ _ _ fun k member => same k ?_
  rw [draft.calls_outcome, List.mem_range'_1] at member
  omega

end Draft

def Outcome.node : Outcome Value → Partial
  | .ready v => .ready v
  | .pending d => .pending d

/-- Nodes that differ in the numbers of their calls at most: they wait for the same calls in the
same order, and read the same once those are answered alike. -/
def Partial.Same (calls calls' : Calls) : Partial → Partial → Prop
  | .ready v, .ready w => v = w
  | .pending d, .pending e =>
    d.calls.map (calls[·]?) = e.calls.map (calls'[·]?) ∧
      ∀ answers answers' : Answers, d.calls.map answers = e.calls.map answers' →
        d.read answers = e.read answers'
  | _, _ => False

/-- The calls stand in the list from the given number on. -/
def Calls.Holds (calls : Calls) (id : CallId) (part : Calls) : Prop :=
  ∀ k < part.length, calls[id + k]? = part[k]?

theorem Calls.holds_append (before part after : Calls) :
    Calls.Holds (before ++ (part ++ after)) before.length part := by
  intro k inside
  rw [List.getElem?_append_right (Nat.le_add_right _ _), Nat.add_sub_cancel_left,
    List.getElem?_append_left inside]

theorem map_range'_eq_iff {α : Type} {f g : Nat → α} {i j n : Nat} :
    (List.range' i n).map f = (List.range' j n).map g ↔ ∀ k < n, f (i + k) = g (j + k) := by
  simp [List.range'_eq_map_range, List.map_map, List.map_inj_left]

theorem Draft.same_node (draft : Draft) {calls calls' : Calls} {id id' : CallId}
    (here : calls.Holds id draft.started) (there : calls'.Holds id' draft.started) :
    (draft.outcome id).node.Same calls calls' (draft.outcome id').node := by
  have flag := (draft.isPending_outcome id).trans (draft.isPending_outcome id').symm
  have numbers := draft.calls_outcome id
  have numbers' := draft.calls_outcome id'
  have read (answers answers' : Answers)
      (same : (List.range' id draft.started.length).map answers =
        (List.range' id' draft.started.length).map answers') :=
    draft.read_outcome_congr (map_range'_eq_iff.mp same)
  cases first : draft.outcome id with
  | ready v =>
    rw [first] at flag numbers read
    cases second : draft.outcome id' with
    | pending e =>
      rw [second] at flag
      cases flag
    | ready w =>
      -- Without calls there are no answers to differ in.
      have none : draft.started.length = 0 := by
        have length := congrArg List.length numbers
        rw [List.length_range'] at length
        exact length.symm
      rw [second, none] at read
      exact read (fun _ => .ok .null) (fun _ => .ok .null) rfl
  | pending d =>
    rw [first] at flag numbers read
    cases second : draft.outcome id' with
    | ready w =>
      rw [second] at flag
      cases flag
    | pending e =>
      rw [second] at numbers' read
      have calls_eq : d.calls = List.range' id draft.started.length := numbers
      have calls_eq' : e.calls = List.range' id' draft.started.length := numbers'
      rw [← calls_eq, ← calls_eq'] at read
      refine ⟨?_, read⟩
      rw [calls_eq, calls_eq', map_range'_eq_iff]
      exact fun k inside => (here k inside).trans (there k inside).symm

end LiveConfig
