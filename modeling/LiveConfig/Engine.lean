import LiveConfig.Evaluate
import LiveConfig.Template

set_option autoImplicit false

namespace LiveConfig

structure Settings where
  /-- The value of a failing expression that stands alone. -/
  sentinel : Value := .null
  /-- The text of a failing expression inside other text. -/
  interpolationError : String := "<error>"
deriving Inhabited

/-- Evaluates without failing: a failing expression is reported and replaced by a fallback, which is
the sentinel, or a text when the expression stands inside other text. -/
structure Engine where
  settings : Settings := {}
  registry : Registry := {}

/-- How a string without delimiters is read. -/
inductive Mode where
  /-- As text. -/
  | structural
  /-- As one expression, the way variables are declared. -/
  | declaration
deriving DecidableEq, Repr

namespace Engine

/-- Evaluates an expression and gives its failure to the caller. -/
def tryEvaluate (engine : Engine) (scope : Scope) (source : String) :
    Except Failure Expr.Evaluated := do
  let e ← (Expr.parse source).mapError .malformed
  e.evalTail engine.registry scope

/-- The answer of a call, with a fallback should it have failed. -/
def orFallback (fallback : Value) : HostResult → Value
  | .ok value => value
  | .error _ => fallback

/-- Evaluates an expression with the given fallback. -/
def evaluateOr (engine : Engine) (scope : Scope) (fallback : Value) (source : String)
    (journal : Journal) : Outcome Value × Journal :=
  match engine.tryEvaluate { scope with calls := journal.calls } source with
  | .ok (.value value) => (.ready value, journal)
  | .ok (.call reply) =>
    let (id, journal) := journal.start (some source) reply
    (.pending ((Deferred.ofCall id).map (orFallback fallback)), journal)
  | .error failure => (.ready fallback, journal.emit (.expressionFailed source failure))

/-- Evaluates an expression that stands alone. -/
def evaluate (engine : Engine) (scope : Scope) (source : String) (journal : Journal) :
    Outcome Value × Journal :=
  engine.evaluateOr scope engine.settings.sentinel source journal

/-- The segments of a template, each as a value, from the left. -/
def evaluateSegments (engine : Engine) (scope : Scope) :
    List Segment → Journal → List (Outcome Value) × Journal
  | [], journal => ([], journal)
  | .text s :: rest, journal =>
    let (parts, journal) := evaluateSegments engine scope rest journal
    (.ready (.text s) :: parts, journal)
  | .expr source :: rest, journal =>
    let fallback := .text engine.settings.interpolationError
    let (part, journal) := engine.evaluateOr scope fallback source journal
    let (parts, journal) := evaluateSegments engine scope rest journal
    (part :: parts, journal)

/-- The texts of some values, one after another. -/
def concatenate (parts : List Value) : Value :=
  .text (String.join (parts.map Value.toText))

/-- Evaluates one string of a configuration. -/
def evaluateTemplate (engine : Engine) (scope : Scope) (mode : Mode) (template : String)
    (journal : Journal) : Outcome Value × Journal :=
  match Template.classify template with
  | .literal rest => (.ready (.text rest), journal)
  | .whole source => engine.evaluate scope source journal
  | .interpolated segments =>
    let (parts, journal) := engine.evaluateSegments scope segments journal
    ((Outcome.all parts).map concatenate, journal)
  | .plain =>
    match mode with
    | .structural => (.ready (.text template), journal)
    | .declaration => engine.evaluate scope template journal

end Engine

end LiveConfig
