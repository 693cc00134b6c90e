import Mathlib.Data.List.Perm.Basic
import LiveConfig.Proofs.Rewriting.Draft
import LiveConfig.Proofs.Rewriting.Observing

set_option autoImplicit false

namespace LiveConfig

section

variable (opens : String → HostResult)

/-- What a reply comes to when the gates bring the given results. -/
def Reply.result : Reply → HostResult
  | .finished result => result
  | .waiting gate => opens gate

def Call.verdict (call : Call) : HostResult :=
  match call.progress with
  | .waiting gate => opens gate
  | .arrived result => result
  | .observed result => result

def failureReport (source : String) : HostResult → List Event
  | .ok _ => []
  | .error message => [.expressionFailed source (.host message)]

/-- What is still to be reported about a call. -/
def Call.due (call : Call) : List Event :=
  match call.blame, call.progress with
  | some source, .waiting gate => failureReport source (opens gate)
  | some source, .arrived result => failureReport source result
  | _, _ => []

/-- The value and the failure an evaluation comes to. -/
def Expr.Evaluated.verdict : Expr.Evaluated → Except Failure Value
  | .value v => .ok v
  | .call reply => (reply.result opens).mapError .host

namespace Piece

/-- The value of an embedded expression, and what is reported about it. -/
def verdict : Piece → Value × List Event
  | .value v => (v, [])
  | .call source fallback reply =>
    (Engine.orFallback fallback (reply.result opens), failureReport source (reply.result opens))
  | .failed source fallback failure => (fallback, [.expressionFailed source failure])

end Piece

/-- The value of a string, and what is reported about it. -/
def Draft.verdict : Draft → Value × List Event
  | .single piece => piece.verdict opens
  | .joined pieces =>
    (Engine.concatenate (pieces.map fun piece => (piece.verdict opens).1),
      pieces.flatMap fun piece => (piece.verdict opens).2)

theorem Call.verdict_ofReply (blame : Option String) (reply : Reply) :
    Call.verdict opens ⟨blame, .ofReply reply⟩ = reply.result opens := by
  cases reply <;> rfl

namespace Piece

theorem reported_append_due (piece : Piece) :
    piece.reported ++ piece.started.flatMap (Call.due opens) = (piece.verdict opens).2 := by
  cases piece with
  | value v => rfl
  | failed source fallback failure => rfl
  | call source fallback reply =>
    cases reply <;>
      simp [reported, started, verdict, Call.due, Progress.ofReply, Reply.result]

theorem read_outcome (piece : Piece) (id : CallId) {answers : Answers}
    (answered : ∀ k call, piece.started[k]? = some call → answers (id + k) = call.verdict opens) :
    (piece.outcome id).read answers = (piece.verdict opens).1 := by
  cases piece with
  | value v => rfl
  | failed source fallback failure => rfl
  | call source fallback reply =>
    have answer := answered 0 _ rfl
    rw [Call.verdict_ofReply] at answer
    exact congrArg (Engine.orFallback fallback) answer

theorem read_outcomes (pieces : List Piece) (id : CallId) {answers : Answers}
    (answered : ∀ k call, (pieces.flatMap started)[k]? = some call →
      answers (id + k) = call.verdict opens) :
    (outcomes id pieces).map (Outcome.read answers) =
      pieces.map fun piece => (piece.verdict opens).1 := by
  induction pieces generalizing id with
  | nil => rfl
  | cons piece rest ih =>
    rw [List.flatMap_cons] at answered
    have first : (piece.outcome id).read answers = (piece.verdict opens).1 := by
      refine piece.read_outcome opens id fun k call found => answered k call ?_
      rw [List.getElem?_append_left (List.getElem?_eq_some_iff.mp found).1]
      exact found
    have others := ih (id + piece.started.length) fun k call found => by
      rw [Nat.add_assoc]
      refine answered _ call ?_
      rw [List.getElem?_append_right (Nat.le_add_right _ _), Nat.add_sub_cancel_left]
      exact found
    rw [outcomes, List.map_cons, List.map_cons, first, others]

end Piece

namespace Draft

theorem read_outcome (draft : Draft) (id : CallId) {answers : Answers}
    (answered : ∀ k call, draft.started[k]? = some call → answers (id + k) = call.verdict opens) :
    (draft.outcome id).read answers = (draft.verdict opens).1 := by
  cases draft with
  | single piece =>
    rw [started, pieces, List.flatMap_singleton] at answered
    exact piece.read_outcome opens id answered
  | joined pieces =>
    have map_read (o : Outcome (List Value)) :
        (o.map Engine.concatenate).read answers = Engine.concatenate (o.read answers) := by
      cases o <;> rfl
    rw [outcome, map_read, Outcome.read_all, Piece.read_outcomes opens pieces id answered]
    rfl

theorem reported_append_due_perm (draft : Draft) :
    (draft.reported ++ draft.started.flatMap (Call.due opens)).Perm (draft.verdict opens).2 := by
  have pieces : (draft.verdict opens).2 =
      draft.pieces.flatMap fun piece => (piece.verdict opens).2 := by
    cases draft with
    | single piece => rw [Draft.pieces, List.flatMap_singleton, verdict]
    | joined pieces => rfl
  rw [pieces, reported, started, List.flatMap_assoc]
  simp only [← Piece.reported_append_due]
  exact List.flatMap_append_perm _ _ _

end Draft

end

namespace Expr

/-- The expression does not call the function, however its name is spelled. -/
def Avoids (name : String) (e : Expr) : Prop :=
  ∀ function arguments, Within (.call function arguments) e →
    Builtin.foldName function ≠ Builtin.foldName name

/-- The expression calls the function as its last step only, if at all. -/
inductive TailOnly (name : String) : Expr → Prop where
  | avoids {e : Expr} (never : Avoids name e) : TailOnly name e
  | call {function : String} {arguments : List Expr}
      (never : ∀ a ∈ arguments, Avoids name a) : TailOnly name (.call function arguments)
  | ternary {condition yes no : Expr} (never : Avoids name condition) (first : TailOnly name yes)
      (second : TailOnly name no) : TailOnly name (.ternary condition yes no)
  | chain {body : Expr} (last : TailOnly name body) : TailOnly name (.chain body)

section

variable {opens : String → HostResult} {f : List Value → HostResult} {g : List Value → Reply}

theorem Avoids.agree {name : String} {e : Expr} (never : Avoids name e) (registry : Registry)
    (one other : Registration) (scope : Scope) :
    Agree e (registry.register name one) (registry.register name other) scope scope where
  lookup _ _ := rfl
  call function arguments called := by
    have differ := never function arguments called
    funext args
    simp only [Registry.call_eq, Registry.find?_register_other _ _ _ _ differ]

theorem verdict_chain (registry : Registry) (scope : Scope) (body : Expr) :
    (evalTail registry scope (.chain body) >>= Evaluated.verdict opens) =
      match evalTail registry scope body >>= Evaluated.verdict opens with
      | .error .chainEnded => .ok .null
      | result => result := by
  rw [evalTail]
  cases evalTail registry scope body with
  | error failure => cases failure <;> rfl
  | ok evaluated =>
    cases evaluated with
    | value v => rfl
    | call reply =>
      simp only [ok_bind, Evaluated.verdict]
      cases reply.result opens <;> rfl

/-- A function in tail position may answer later as well as at once: the whole expression comes to
the same. -/
theorem TailOnly.verdict_eq {name : String} {e : Expr} (tail : TailOnly name e)
    (fixed : ∀ args, (g args).result opens = f args) (registry : Registry) (scope : Scope) :
    (evalTail (registry.register name (.async g)) scope e >>= Evaluated.verdict opens) =
      (evalTail (registry.register name (.sync f)) scope e >>= Evaluated.verdict opens) := by
  induction tail with
  | avoids never =>
    rw [evalTail_congr _ (never.agree registry (.async g) (.sync f) scope)]
    intro function arguments called
    have differ := never function arguments called
    rw [Registry.find?_register_other _ _ _ _ differ, Registry.find?_register_other _ _ _ _ differ]
  | @call function arguments never =>
    have same := evalAll_congr arguments fun a member =>
      (never a member).agree registry (.async g) (.sync f) scope
    rw [evalTail, evalTail, same]
    cases evalAll (registry.register name (.sync f)) scope arguments with
    | error failure => rfl
    | ok args =>
      -- Here alone the registries differ: one starts the call, the other has its answer.
      by_cases called : Builtin.foldName function = Builtin.foldName name
      · have later := registry.find?_register_self name function (.async g) called
        have now := registry.find?_register_self name function (.sync f) called
        simp only [ok_bind, Registry.isAsync_eq, later, now, Registry.start_eq, Registry.call_eq, if_true,
          Bool.false_eq_true, if_false]
        have answer : Evaluated.verdict opens (.call (g args)) = (f args).mapError .host := by
          rw [Evaluated.verdict, fixed]
        refine answer.trans ?_
        cases f args <;> rfl
      · have later := registry.find?_register_other name function (.async g) called
        have now := registry.find?_register_other name function (.sync f) called
        simp only [ok_bind, Registry.isAsync_eq, later, now, Registry.start_eq, Registry.call_eq]
  | @ternary condition yes no never _ _ first second =>
    have same := eval_congr condition (never.agree registry (.async g) (.sync f) scope)
    rw [evalTail, evalTail, same]
    cases eval (registry.register name (.sync f)) scope condition with
    | error failure => rfl
    | ok v =>
      rw [ok_bind, ok_bind]
      by_cases chosen : v.truthy = true
      · rw [if_pos chosen, if_pos chosen]
        exact first
      · rw [if_neg chosen, if_neg chosen]
        exact second
  | chain _ ih => rw [verdict_chain, verdict_chain, ih]

end

end Expr

namespace Engine

theorem verdict_piece (engine : Engine) (scope : Scope) (fallback : Value) (source : String)
    (opens : String → HostResult) :
    (engine.piece scope fallback source).verdict opens =
      match engine.tryEvaluate scope source >>= Expr.Evaluated.verdict opens with
      | .ok v => (v, [])
      | .error failure => (fallback, [.expressionFailed source failure]) := by
  unfold piece
  cases engine.tryEvaluate scope source with
  | error failure => rfl
  | ok evaluated =>
    cases evaluated with
    | value v => rfl
    | call reply =>
      simp only [ok_bind, Expr.Evaluated.verdict, Piece.verdict]
      cases reply.result opens <;> rfl

/-- The engine with one more function. -/
def withFunction (engine : Engine) (name : String) (registration : Registration) : Engine :=
  { engine with registry := engine.registry.register name registration }

section

variable {opens : String → HostResult} {f : List Value → HostResult} {g : List Value → Reply}
  (fixed : ∀ args, (g args).result opens = f args)

include fixed

theorem verdict_piece_eq (engine : Engine) (scope : Scope) (name : String) (fallback : Value)
    {source : String} (tail : ∀ e, Expr.parse source = .ok e → e.TailOnly name) :
    ((engine.withFunction name (.async g)).piece scope fallback source).verdict opens =
      ((engine.withFunction name (.sync f)).piece scope fallback source).verdict opens := by
  have same : ((engine.withFunction name (.async g)).tryEvaluate scope source >>=
        Expr.Evaluated.verdict opens) =
      ((engine.withFunction name (.sync f)).tryEvaluate scope source >>=
        Expr.Evaluated.verdict opens) := by
    unfold tryEvaluate
    cases parsed : Expr.parse source with
    | error e => rfl
    | ok e => exact (tail e parsed).verdict_eq fixed engine.registry scope
  rw [verdict_piece, verdict_piece, same]

/-- The verdict on a string does not tell whether a function in tail position answers at once. -/
theorem verdict_draft_eq (engine : Engine) (scope : Scope) (name : String) {template : String}
    (tail : ∀ e, Template.Embeds template e → e.TailOnly name) :
    ((engine.withFunction name (.async g)).draft scope .structural template).verdict opens =
      ((engine.withFunction name (.sync f)).draft scope .structural template).verdict opens := by
  have embedded {source : String} (inside : source ∈ (Template.classify template).sources) (e : Expr)
      (parsed : Expr.parse source = .ok e) : e.TailOnly name :=
    tail e ⟨source, inside, parsed⟩
  unfold draft
  cases classified : Template.classify template with
  | literal rest => rfl
  | whole source =>
    have inside : source ∈ (Template.classify template).sources := by
      simp [classified, Template.sources]
    exact engine.verdict_piece_eq fixed scope name _ (embedded inside)
  | interpolated segments =>
    have each (segment : Segment) (member : segment ∈ segments) :
        ((engine.withFunction name (.async g)).segmentPiece scope segment).verdict opens =
          ((engine.withFunction name (.sync f)).segmentPiece scope segment).verdict opens := by
      cases segment with
      | text s => rfl
      | expr source =>
        have inside : source ∈ (Template.classify template).sources := by
          rw [classified]
          exact List.mem_filterMap.mpr ⟨_, member, rfl⟩
        exact engine.verdict_piece_eq fixed scope name _ (embedded inside)
    have values : segments.map (fun segment =>
          (((engine.withFunction name (.async g)).segmentPiece scope segment).verdict opens).1) =
        segments.map fun segment =>
          (((engine.withFunction name (.sync f)).segmentPiece scope segment).verdict opens).1 :=
      List.map_congr_left fun segment member => congrArg Prod.fst (each segment member)
    have events : segments.map (fun segment =>
          (((engine.withFunction name (.async g)).segmentPiece scope segment).verdict opens).2) =
        segments.map fun segment =>
          (((engine.withFunction name (.sync f)).segmentPiece scope segment).verdict opens).2 :=
      List.map_congr_left fun segment member => congrArg Prod.snd (each segment member)
    simp only [Draft.verdict, List.map_map, Function.comp_def, List.flatMap_def, values, events]
  | plain => rfl

end

end Engine

end LiveConfig
