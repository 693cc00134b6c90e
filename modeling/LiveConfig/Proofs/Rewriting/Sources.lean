import LiveConfig.Proofs.Rewriting.DocumentOrder
import LiveConfig.Proofs.Rewriting.Mirroring

set_option autoImplicit false

namespace LiveConfig

namespace Template

theorem classify_eq_plain {s : String} (free : ¬ ['<', '$'] <:+: s.toList)
    (unmarked : escapeMark.isPrefixOf s.toList = false) : classify s = .plain := by
  have unopened : cutOpen s.toList = none := by
    cases opened : cutOpen s.toList with
    | none => rfl
    | some cut =>
      refine absurd ⟨cut.1, cut.2, ?_⟩ free
      rw [eq_of_cutOpen opened]
      simp
  have segments : splitChars s.toList = textSegment s.toList := by
    rw [splitChars]
    split
    · rfl
    · next opened =>
      rw [unopened] at opened
      cases opened
  rw [classify, if_neg (Bool.eq_false_iff.mp unmarked), split, segments]
  unfold textSegment
  split <;> rfl

/-- The expression is evaluated for the string. -/
def Evaluates (mode : Mode) (template : String) (e : Expr) : Prop :=
  ∃ source ∈ sourcesIn mode template, Expr.parse source = .ok e

theorem sourcesIn_structural (template : String) :
    sourcesIn .structural template = (classify template).sources := by
  unfold sourcesIn
  cases classify template <;> rfl

theorem evaluates_structural_iff {template : String} {e : Expr} :
    Evaluates .structural template e ↔ Embeds template e := by
  rw [Evaluates, Embeds, sourcesIn_structural]

end Template

namespace Value

/-- The expression is evaluated for a variable that is declared as the value. -/
def Declares (value : Value) (e : Expr) : Prop :=
  match value with
  | .text template => Template.Evaluates .declaration template e
  | value => value.Embeds e

/-- A variable that is declared as the value reads the name. -/
def Mentions (value : Value) (name : String) : Prop :=
  ∃ e, value.Declares e ∧ Expr.Within (.name name) e

end Value

end LiveConfig
