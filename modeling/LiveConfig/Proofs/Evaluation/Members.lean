import LiveConfig.Proofs.Evaluation.Frames
import Mathlib

set_option autoImplicit false

namespace LiveConfig

/-- The same value, or a failure in both; the end of a chain stays the end of a chain. -/
inductive SameOutcome {α : Type} : Except Failure α → Except Failure α → Prop where
  | value (a : α) : SameOutcome (.ok a) (.ok a)
  | ended : SameOutcome (.error .chainEnded) (.error .chainEnded)
  | failed {reason other : Failure} (real : reason.Real) (real' : other.Real) :
    SameOutcome (.error reason) (.error other)

namespace SameOutcome

variable {α β : Type}

theorem refl (x : Except Failure α) : SameOutcome x x := by
  cases x with
  | ok a => exact .value a
  | error reason =>
    by_cases ends : reason = .chainEnded
    · subst ends
      exact .ended
    · exact .failed ends ends

theorem bind {x y : Except Failure α} {f g : α → Except Failure β} (first : SameOutcome x y)
    (next : ∀ a, SameOutcome (f a) (g a)) : SameOutcome (x >>= f) (y >>= g) := by
  cases first with
  | value a => exact next a
  | ended => exact .ended
  | failed real real' => exact .failed real real'

theorem bind_right (x : Except Failure α) {f g : α → Except Failure β}
    (next : ∀ a, SameOutcome (f a) (g a)) : SameOutcome (x >>= f) (x >>= g) :=
  (refl x).bind next

theorem bind_left {x y : Except Failure α} (first : SameOutcome x y)
    (f : α → Except Failure β) : SameOutcome (x >>= f) (y >>= f) :=
  first.bind fun a => refl (f a)

theorem eq_ok {x y : Except Failure α} {a : α} (same : SameOutcome x y) (done : x = .ok a) :
    y = .ok a := by
  subst done
  cases same with
  | value => rfl

theorem ended_or_real {x y : Except Failure α} (same : SameOutcome x y) :
    x = .error .chainEnded ∧ y = .error .chainEnded ∨
      FailsWith Failure.Real x ∧ FailsWith Failure.Real y := by
  cases same with
  | value a => exact Or.inr ⟨failsWith_ok _ a, failsWith_ok _ a⟩
  | ended => exact Or.inl ⟨rfl, rfl⟩
  | failed real real' => exact Or.inr ⟨failsWith_error real, failsWith_error real'⟩

end SameOutcome

/-- A property of a value and its entry under the same text, the length of a text apart. -/
theorem Value.property_entry {v : Value} {name : String}
    (apart : name = "length" → ∀ s, v ≠ .text s) :
    SameOutcome (v.property name) (v.entry (.text name)) := by
  cases v with
  | null => exact .failed nofun nofun
  | bool b => exact .failed nofun nofun
  | number x => exact .failed nofun nofun
  | text s =>
    have other : name ≠ "length" := fun asked => apart asked s rfl
    rw [Value.property, if_neg other]
    exact .failed nofun nofun
  | array items =>
    rw [Value.property, Value.entry]
    split
    · exact .value _
    · exact .failed nofun nofun
  | object fields => exact .value _

namespace Expr

/-- Expressions of which one may stand for the other, as far as values go. -/
structure Exchangeable (registry : Registry) (scope : Scope) (e e' : Expr) : Prop where
  value : SameOutcome (eval registry scope e) (eval registry scope e')
  tail : SameOutcome (evalTail registry scope e) (evalTail registry scope e')

section

variable {registry : Registry} {scope : Scope} {e e' : Expr}

theorem sameOutcome_evalAll (same : SameOutcome (eval registry scope e) (eval registry scope e'))
    (before after : List Expr) :
    SameOutcome (evalAll registry scope (before ++ e :: after))
      (evalAll registry scope (before ++ e' :: after)) := by
  induction before with
  | nil =>
    rw [List.nil_append, List.nil_append, evalAll, evalAll]
    exact same.bind_left _
  | cons first rest ih =>
    rw [List.cons_append, List.cons_append, evalAll, evalAll]
    exact .bind_right _ fun _ => ih.bind_left _

theorem sameOutcome_evalFields
    (same : SameOutcome (eval registry scope e) (eval registry scope e'))
    (before : List (String × Expr)) (key : String) (after : List (String × Expr)) :
    SameOutcome (evalFields registry scope (before ++ (key, e) :: after))
      (evalFields registry scope (before ++ (key, e') :: after)) := by
  induction before with
  | nil =>
    rw [List.nil_append, List.nil_append, evalFields, evalFields]
    exact same.bind_left _
  | cons first rest ih =>
    rw [List.cons_append, List.cons_append, evalFields, evalFields]
    exact .bind_right _ fun _ => ih.bind_left _

theorem sameOutcome_chain (same : SameOutcome (eval registry scope e) (eval registry scope e')) :
    SameOutcome (eval registry scope (.chain e)) (eval registry scope (.chain e')) := by
  obtain ⟨ended, ended'⟩ | ⟨real, real'⟩ := same.ended_or_real
  · rw [eval, eval, ended, ended']
    exact .refl _
  · rw [eval_chain_of_real real, eval_chain_of_real real']
    exact same

theorem sameOutcome_chainTail
    (same : SameOutcome (evalTail registry scope e) (evalTail registry scope e')) :
    SameOutcome (evalTail registry scope (.chain e)) (evalTail registry scope (.chain e')) := by
  obtain ⟨ended, ended'⟩ | ⟨real, real'⟩ := same.ended_or_real
  · rw [evalTail, evalTail, ended, ended']
    exact .refl _
  · rw [evalTail_chain_of_real real, evalTail_chain_of_real real']
    exact same

theorem sameOutcome_fill (same : SameOutcome (eval registry scope e) (eval registry scope e'))
    (frame : Frame) :
    SameOutcome (eval registry scope (frame.fill e)) (eval registry scope (frame.fill e')) := by
  cases frame with
  | argument function before after =>
    rw [Frame.fill, Frame.fill, eval, eval]
    exact (sameOutcome_evalAll same before after).bind_left _
  | container position =>
    rw [Frame.fill, Frame.fill, eval_index, eval_index]
    exact .bind_right _ fun _ => same.bind_left _
  | position container =>
    rw [Frame.fill, Frame.fill, eval_index, eval_index]
    exact same.bind_left _
  | body => exact sameOutcome_chain same
  | left op right =>
    cases op <;> rw [Frame.fill, Frame.fill, eval, eval] <;> exact same.bind_left _
  | right op left =>
    cases op with
    | logical op =>
      rw [Frame.fill, Frame.fill, eval, eval]
      refine .bind_right _ fun decisive => ?_
      split
      · exact .refl _
      · exact same
    | arithmetic _ | comparison _ | equal | unequal =>
      rw [Frame.fill, Frame.fill, eval, eval]
      exact .bind_right _ fun _ => same.bind_left _
  | yes condition no =>
    rw [Frame.fill, Frame.fill, eval, eval]
    refine .bind_right _ fun chosen => ?_
    split
    · exact same
    · exact .refl _
  | no condition yes =>
    rw [Frame.fill, Frame.fill, eval, eval]
    refine .bind_right _ fun chosen => ?_
    split
    · exact .refl _
    · exact same
  | item before after =>
    rw [Frame.fill, Frame.fill, eval, eval]
    exact (sameOutcome_evalAll same before after).bind_left _
  | field before key after =>
    rw [Frame.fill, Frame.fill, eval, eval]
    exact (sameOutcome_evalFields same before key after).bind_left _
  | receiver _ | guarded | operand _ | condition _ _ =>
    rw [Frame.fill, Frame.fill, eval, eval]
    exact same.bind_left _

theorem Exchangeable.fill (same : Exchangeable registry scope e e') (frame : Frame) :
    Exchangeable registry scope (frame.fill e) (frame.fill e') := by
  have value := sameOutcome_fill same.value frame
  refine ⟨value, ?_⟩
  cases frame with
  | argument function before after =>
    rw [Frame.fill, Frame.fill, evalTail, evalTail]
    exact (sameOutcome_evalAll same.value before after).bind_left _
  | condition yes no =>
    rw [Frame.fill, Frame.fill, evalTail, evalTail]
    exact same.value.bind_left _
  | body => exact sameOutcome_chainTail same.tail
  | yes condition no =>
    rw [Frame.fill, Frame.fill, evalTail, evalTail]
    refine .bind_right _ fun chosen => ?_
    split
    · exact same.tail
    · exact .refl _
  | no condition yes =>
    rw [Frame.fill, Frame.fill, evalTail, evalTail]
    refine .bind_right _ fun chosen => ?_
    split
    · exact .refl _
    · exact same.tail
  | container _ | position _ | receiver _ | guarded | operand _ | left _ _ | right _ _ | item _ _
  | field _ _ _ =>
    simp only [Frame.fill] at value
    simp only [Frame.fill, evalTail]
    exact value.bind_left _

theorem Exchangeable.plug (same : Exchangeable registry scope e e') (frames : List Frame) :
    Exchangeable registry scope (plug frames e) (plug frames e') := by
  induction frames with
  | nil => exact same
  | cons frame rest ih => exact ih.fill frame

theorem exchangeable_member {receiver : Expr} {name : String}
    (apart : name = "length" → ∀ s, eval registry scope receiver ≠ .ok (.text s)) :
    Exchangeable registry scope (.member receiver name) (.index receiver (.text name)) := by
  have value : SameOutcome (eval registry scope (.member receiver name))
      (eval registry scope (.index receiver (.text name))) := by
    rw [eval_index, eval, eval, ok_bind]
    cases found : eval registry scope receiver with
    | error reason => exact .refl _
    | ok v =>
      refine Value.property_entry fun asked s same => apart asked s ?_
      rw [found, same]
  refine ⟨value, ?_⟩
  simp only [evalTail]
  exact value.bind_left _

end

/-- The length of a text is asked for. -/
def AsksTextLength (registry : Registry) (scope : Scope) (receiver : Expr) (name : String) : Prop :=
  name = "length" ∧ ∃ s, eval registry scope receiver = .ok (.text s)

/-- `e.p` and `e['p']` may stand for each other anywhere in an expression, whatever `e` comes to,
unless `e` is a text and `p` is `length`. There the one is the length and the other one fails. -/
theorem member_agrees_with_entry_unless_text_length (registry : Registry) (scope : Scope)
    (receiver : Expr) (name : String) :
    (¬ AsksTextLength registry scope receiver name → ∀ frames : List Frame,
      SameOutcome (eval registry scope (plug frames (.member receiver name)))
          (eval registry scope (plug frames (.index receiver (.text name)))) ∧
        SameOutcome (evalTail registry scope (plug frames (.member receiver name)))
          (evalTail registry scope (plug frames (.index receiver (.text name))))) ∧
    (AsksTextLength registry scope receiver name →
      ∃ s, eval registry scope receiver = .ok (.text s) ∧
        eval registry scope (.member receiver name) = .ok (.ofNat s.length) ∧
        eval registry scope (.index receiver (.text name)) =
          .error (.notIndexable .string .string)) := by
  constructor
  · intro apart frames
    have same :
        Exchangeable registry scope (.member receiver name) (.index receiver (.text name)) :=
      exchangeable_member fun asked s found => apart ⟨asked, s, found⟩
    exact ⟨(same.plug frames).value, (same.plug frames).tail⟩
  · rintro ⟨rfl, s, found⟩
    refine ⟨s, found, ?_, ?_⟩
    · rw [eval, found]
      rfl
    · rw [eval_index, eval, ok_bind, found]
      rfl

/-- In `[user?.tags.length, 'x']` the length of an array is asked for. -/
theorem entry_length_of_array :
    let scope : Scope := {
      host := { user := .object [("tags", .array [.text "a", .text "b"])] } }
    let receiver : Expr := .member (.guard (.name "user")) "tags"
    let frames : List Frame := [.item [] [.text "x"], .body]
    parse "[user?.tags.length, 'x']" = .ok (plug frames (.member receiver "length")) ∧
    ¬ AsksTextLength {} scope receiver "length" ∧
    eval {} scope (plug frames (.index receiver (.text "length"))) =
      .ok (.array [.ofNat 2, .text "x"]) := by
  intro scope receiver frames
  have apart : ¬ AsksTextLength {} scope receiver "length" := by
    rintro ⟨_, s, found⟩
    cases found
  obtain ⟨same, _⟩ := (member_agrees_with_entry_unless_text_length {} scope receiver "length").1
    apart frames
  exact ⟨by cbv, apart, same.eq_ok rfl⟩

/-- `'abc'.length` is 3, and `'abc'['length']` fails. -/
theorem member_of_text_without_entry :
    ¬ ∀ (source : String) (frames : List Frame) (receiver : Expr) (name : String)
      (registry : Registry) (scope : Scope),
      parse source = .ok (plug frames (.member receiver name)) →
      (∀ inner, receiver ≠ .guard inner) →
      SameOutcome (eval registry scope (plug frames (.member receiver name)))
        (eval registry scope (plug frames (.index receiver (.text name)))) := by
  intro always
  have parsed : parse "'abc'.length" = .ok (plug [] (.member (.text "abc") "length")) := by cbv
  have unguarded (inner : Expr) : Expr.text "abc" ≠ .guard inner := Expr.noConfusion
  have same := always _ [] (.text "abc") "length" {} { host := {} } parsed unguarded
  have failed : eval {} { host := {} } (.index (.text "abc") (.text "length")) =
      .error (.notIndexable .string .string) := rfl
  cases failed.symm.trans (same.eq_ok rfl)

end Expr

end LiveConfig
