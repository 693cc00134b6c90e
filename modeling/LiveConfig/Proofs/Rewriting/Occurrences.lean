import LiveConfig.Proofs.Rewriting.Entering
import LiveConfig.Proofs.Rewriting.Sources

set_option autoImplicit false

namespace LiveConfig

namespace Template

/-- The source stands between two delimiters of the string, maybe with blanks around it. -/
def Encloses (s source : String) : Prop :=
  ∃ before body after, s.toList = before ++ '<' :: '$' :: (body ++ '$' :: '>' :: after) ∧
    source = String.ofList (Text.trim body)

theorem enclosed_of_mem_splitChars {text : List Char} {source : String}
    (inside : Segment.expr source ∈ splitChars text) :
    ∃ before body after, text = before ++ '<' :: '$' :: (body ++ '$' :: '>' :: after) ∧
      source = String.ofList (Text.trim body) := by
  have notText (text : List Char) : Segment.expr source ∉ textSegment text := by
    unfold textSegment
    split <;> simp
  induction text using splitChars.induct with
  | case1 text opened =>
    rw [splitChars] at inside
    split at inside
    · exact absurd inside (notText text)
    · next found =>
      rw [opened] at found
      cases found
  | case2 text before body opened closed =>
    rw [splitChars] at inside
    split at inside
    · exact absurd inside (notText text)
    · next found =>
      obtain ⟨rfl, rfl⟩ := Prod.mk.inj (Option.some.inj (opened.symm.trans found))
      split at inside
      · exact absurd inside (notText text)
      · next found =>
        rw [closed] at found
        cases found
  | case3 text before body opened source' after closed ih =>
    rw [splitChars_of_cut opened closed, List.mem_append, List.mem_cons] at inside
    have whole := eq_of_cutOpen opened
    rw [eq_of_cutClose closed] at whole
    rcases inside with earlier | here | later
    · exact absurd earlier (notText before)
    · exact ⟨before, source', after, whole, Segment.expr.inj here⟩
    · obtain ⟨front, body', rest, split, trimmed⟩ := ih later
      refine ⟨before ++ '<' :: '$' :: (source' ++ '$' :: '>' :: front), body', rest, ?_, trimmed⟩
      rw [whole, split]
      simp

theorem encloses_of_mem_sources {s source : String} (inside : source ∈ (classify s).sources) :
    Encloses s source := by
  apply enclosed_of_mem_splitChars
  show Segment.expr source ∈ split s
  unfold classify at inside
  split at inside
  · cases inside
  · unfold ofSegments at inside
    split at inside
    · next only => rw [only, List.mem_singleton.mp inside]; exact List.mem_singleton_self _
    · split at inside
      · obtain ⟨segment, member, same⟩ := List.mem_filterMap.mp inside
        cases segment with
        | text s => cases same
        | expr source' => rwa [Option.some.inj same] at member
      · cases inside

/-- A string without embedded expressions is an expression where variables are declared. -/
theorem encloses_or_whole {mode : Mode} {s source : String} (inside : source ∈ sourcesIn mode s) :
    Encloses s source ∨ mode = .declaration ∧ classify s = .plain ∧ source = s := by
  unfold sourcesIn at inside
  cases classified : classify s with
  | plain =>
    rw [classified] at inside
    cases mode with
    | structural => cases inside
    | declaration => exact Or.inr ⟨rfl, rfl, List.mem_singleton.mp inside⟩
  | literal rest | whole source' | interpolated segments =>
    apply Or.inl
    apply encloses_of_mem_sources
    rw [classified] at inside ⊢
    exact inside

end Template

namespace Value

/-- The sources of the expressions in a tree, in document order. -/
def embeddedSources (tree : Value) : List String :=
  (tree.strings []).flatMap fun leaf => Template.sourcesIn .structural leaf.2

/-- The sources of the expressions of a variable that is declared as the value. -/
def declaredSources : Value → List String
  | .text template => Template.sourcesIn .declaration template
  | .array items => (Value.array items).embeddedSources
  | .object fields => (Value.object fields).embeddedSources
  | _ => []

end Value

/-- An expression evaluated once, in one place of a configuration and at one moment. -/
structure Occurrence where
  source : String
  result : Except Failure Expr.Evaluated

namespace Occurrence

def started (o : Occurrence) : Calls :=
  match o.result with
  | .ok (.call reply) => [⟨some o.source, .ofReply reply⟩]
  | _ => []

def reported (o : Occurrence) : List Event :=
  match o.result with
  | .error failure => [.expressionFailed o.source failure]
  | _ => []

theorem unobserved_started (o : Occurrence) : o.started.Unobserved := by
  obtain ⟨source, result⟩ := o
  cases result with
  | error failure => exact nofun
  | ok evaluated =>
    cases evaluated with
    | value v => exact nofun
    | call reply =>
      intro call member
      obtain rfl := List.mem_singleton.mp member
      cases reply <;> exact nofun

end Occurrence

namespace Journal

/-- The calls of some expressions are started and their failures reported. -/
def enterAll (journal : Journal) (occurrences : List Occurrence) : Journal where
  calls := journal.calls ++ occurrences.flatMap Occurrence.started
  events := journal.events ++ occurrences.flatMap Occurrence.reported

theorem enterAll_nil (journal : Journal) : journal.enterAll [] = journal := by
  simp [enterAll]

theorem enterAll_append (journal : Journal) (first rest : List Occurrence) :
    journal.enterAll (first ++ rest) = (journal.enterAll first).enterAll rest := by
  simp [enterAll, List.append_assoc]

end Journal

namespace Engine

def occurrence (engine : Engine) (scope : Scope) (source : String) : Occurrence where
  source := source
  result := engine.tryEvaluate scope source

/-- The expressions of a string, evaluated from the left. -/
def occurrences (engine : Engine) (scope : Scope) (mode : Mode) (template : String) :
    List Occurrence :=
  (Template.sourcesIn mode template).map (engine.occurrence scope)

section

variable (engine : Engine) (scope : Scope)

theorem map_source_occurrences (mode : Mode) (template : String) :
    (engine.occurrences scope mode template).map Occurrence.source =
      Template.sourcesIn mode template := by
  rw [occurrences, List.map_map]
  exact List.map_id _

theorem enter_piece (fallback : Value) (source : String) :
    (engine.piece scope fallback source).started = (engine.occurrence scope source).started ∧
      (engine.piece scope fallback source).reported =
        (engine.occurrence scope source).reported := by
  unfold piece occurrence Occurrence.started Occurrence.reported
  dsimp only
  cases engine.tryEvaluate scope source with
  | error failure => exact ⟨rfl, rfl⟩
  | ok evaluated => cases evaluated <;> exact ⟨rfl, rfl⟩

theorem enter_draft (mode : Mode) (template : String) (journal : Journal) :
    journal.enter (engine.draft scope mode template) =
      journal.enterAll (engine.occurrences scope mode template) := by
  have single (fallback : Value) (source : String) :
      journal.enter (.single (engine.piece scope fallback source)) =
        journal.enterAll [engine.occurrence scope source] := by
    obtain ⟨started, reported⟩ := engine.enter_piece scope fallback source
    simp only [Journal.enter, Journal.enterAll, Draft.started, Draft.reported, Draft.pieces,
      List.flatMap_singleton, started, reported]
  have none (v : Value) : journal.enter (.single (.value v)) = journal.enterAll [] := by
    simp [Journal.enter, Journal.enterAll, Draft.started, Draft.reported, Draft.pieces,
      Piece.started, Piece.reported]
  unfold draft occurrences Template.sourcesIn
  cases Template.classify template with
  | literal rest => exact none _
  | whole source => exact single _ source
  | interpolated segments =>
    have joined : (segments.map (engine.segmentPiece scope)).flatMap Piece.started =
          (((Template.interpolated segments).sources.map (engine.occurrence scope)).flatMap
            Occurrence.started) ∧
        (segments.map (engine.segmentPiece scope)).flatMap Piece.reported =
          (((Template.interpolated segments).sources.map (engine.occurrence scope)).flatMap
            Occurrence.reported) := by
      induction segments with
      | nil => exact ⟨rfl, rfl⟩
      | cons segment rest ih =>
        cases segment with
        | text s => exact ih
        | expr source =>
          obtain ⟨started, reported⟩ :=
            engine.enter_piece scope (.text engine.settings.interpolationError) source
          exact ⟨congrArg₂ (· ++ ·) started ih.1, congrArg₂ (· ++ ·) reported ih.2⟩
    simp only [Journal.enter, Journal.enterAll, Draft.started, Draft.reported, Draft.pieces]
    rw [joined.1, joined.2]
  | plain =>
    cases mode with
    | structural => exact none _
    | declaration => exact single _ template

end

end Engine

namespace Walk

def occurrences (engine : Engine) (scope : Scope) :
    Walk × Journal → List (Path × String) → List Occurrence
  | _, [] => []
  | state, leaf :: rest =>
    engine.occurrences { scope with output := some state.1.tree, calls := state.2.calls }
      .structural leaf.2 ++ occurrences engine scope (visit engine scope state leaf) rest

/-- The expressions of a tree as a walk evaluates them. -/
def occurrencesOf (engine : Engine) (scope : Scope) (tree : Value) (journal : Journal) :
    List Occurrence :=
  occurrences engine scope ({ tree := .ofValue tree }, journal) (tree.strings [])

variable (engine : Engine) (scope : Scope)

theorem journal_visit (state : Walk × Journal) (leaf : Path × String) :
    (visit engine scope state leaf).2 = state.2.enterAll (engine.occurrences
      { scope with output := some state.1.tree, calls := state.2.calls } .structural leaf.2) := by
  rw [← engine.enter_draft]
  obtain ⟨walk, journal⟩ := state
  rw [visit_eq]

theorem journal_foldl_visit (leaves : List (Path × String)) (state : Walk × Journal) :
    (leaves.foldl (visit engine scope) state).2 =
      state.2.enterAll (occurrences engine scope state leaves) := by
  induction leaves generalizing state with
  | nil => exact state.2.enterAll_nil.symm
  | cons leaf rest ih =>
    rw [List.foldl_cons, ih, journal_visit, occurrences, Journal.enterAll_append]

/-- A walk enters the expressions of its tree and nothing else. -/
theorem journal_run (tree : Value) (journal : Journal) :
    (run engine scope tree journal).2 =
      journal.enterAll (occurrencesOf engine scope tree journal) :=
  journal_foldl_visit engine scope _ ({ tree := .ofValue tree }, journal)

theorem map_source_occurrencesOf (tree : Value) (journal : Journal) :
    (occurrencesOf engine scope tree journal).map Occurrence.source = tree.embeddedSources := by
  have strings (leaves : List (Path × String)) (state : Walk × Journal) :
      (occurrences engine scope state leaves).map Occurrence.source =
        leaves.flatMap fun leaf => Template.sourcesIn .structural leaf.2 := by
    induction leaves generalizing state with
    | nil => rfl
    | cons leaf rest ih =>
      rw [occurrences, List.map_append, engine.map_source_occurrences, ih, List.flatMap_cons]
  exact strings _ _

end Walk

namespace Environment

def entryOccurrences (engine : Engine) (scope : Scope) (value : Value) (journal : Journal) :
    List Occurrence :=
  match value with
  | .text template =>
    engine.occurrences { scope with calls := journal.calls } .declaration template
  | .array items => Walk.occurrencesOf engine scope (.array items) journal
  | .object fields => Walk.occurrencesOf engine scope (.object fields) journal
  | _ => []

def occurrences (engine : Engine) (host : HostState) (statics : Option Environment) :
    Environment × Journal → List (Option String × Value) → List Occurrence
  | _, [] => []
  | state, entry :: rest =>
    entryOccurrences engine (entryScope host statics state.1) entry.2 state.2 ++
      occurrences engine host statics (extend engine host statics state entry) rest

/-- The expressions of a tier as a build evaluates them. -/
def occurrencesOf (engine : Engine) (host : HostState) (tier : Tier) (statics : Option Environment)
    (globals locals : Option Declaration) (journal : Journal) : List Occurrence :=
  occurrences engine host statics ({ tier }, journal) (order (Merged.merge globals locals))

variable (engine : Engine)

theorem journal_evaluateEntry (scope : Scope) (value : Value) (journal : Journal) :
    (evaluateEntry engine scope value journal).2 =
      journal.enterAll (entryOccurrences engine scope value journal) := by
  cases value with
  | text template =>
    rw [evaluateEntry, engine.evaluateTemplate_eq]
    exact engine.enter_draft _ .declaration template journal
  | array items => exact Walk.journal_run engine scope (.array items) journal
  | object fields => exact Walk.journal_run engine scope (.object fields) journal
  | null => exact journal.enterAll_nil.symm
  | bool b => exact journal.enterAll_nil.symm
  | number x => exact journal.enterAll_nil.symm

theorem map_source_entryOccurrences (scope : Scope) (value : Value) (journal : Journal) :
    (entryOccurrences engine scope value journal).map Occurrence.source = value.declaredSources := by
  cases value with
  | text template => exact engine.map_source_occurrences _ .declaration template
  | array items => exact Walk.map_source_occurrencesOf engine scope (.array items) journal
  | object fields => exact Walk.map_source_occurrencesOf engine scope (.object fields) journal
  | null => rfl
  | bool b => rfl
  | number x => rfl

variable (host : HostState) (statics : Option Environment)

theorem journal_extend (state : Environment × Journal) (entry : Option String × Value) :
    (extend engine host statics state entry).2 = state.2.enterAll
      (entryOccurrences engine (entryScope host statics state.1) entry.2 state.2) := by
  rw [← journal_evaluateEntry]
  unfold extend
  dsimp only
  split <;> rfl

theorem journal_build (tier : Tier) (globals locals : Option Declaration) (journal : Journal) :
    (build engine host tier statics globals locals journal).2 =
      journal.enterAll (occurrencesOf engine host tier statics globals locals journal) := by
  have entries (entries : List (Option String × Value)) (state : Environment × Journal) :
      (entries.foldl (extend engine host statics) state).2 =
        state.2.enterAll (occurrences engine host statics state entries) := by
    induction entries generalizing state with
    | nil => exact state.2.enterAll_nil.symm
    | cons entry rest ih =>
      rw [List.foldl_cons, ih, journal_extend, occurrences, Journal.enterAll_append]
  exact entries _ ({ tier }, journal)

theorem map_source_occurrencesOf (tier : Tier) (globals locals : Option Declaration)
    (journal : Journal) :
    (occurrencesOf engine host tier statics globals locals journal).map Occurrence.source =
      (order (Merged.merge globals locals)).flatMap fun entry => entry.2.declaredSources := by
  have entries (entries : List (Option String × Value)) (state : Environment × Journal) :
      (occurrences engine host statics state entries).map Occurrence.source =
        entries.flatMap fun entry => entry.2.declaredSources := by
    induction entries generalizing state with
    | nil => rfl
    | cons entry rest ih =>
      rw [occurrences, List.map_append, map_source_entryOccurrences, ih, List.flatMap_cons]
  exact entries _ _

end Environment

end LiveConfig
