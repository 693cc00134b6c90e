import LiveConfig.Proofs.Grammar.Fuel

set_option autoImplicit false

namespace LiveConfig.Grammar

open LiveConfig.Expr

section

variable {α β : Type}

/-- The result is a refusal for want of fuel. -/
def RunsOut (result : Except Refusal α) : Prop :=
  ∃ left, result = .error ⟨.outOfFuel, left⟩

theorem not_runsOut_ok (a : α) : ¬ RunsOut (.ok a : Except Refusal α) := nofun

theorem fuelled_iff {result : Except Refusal α} : Fuelled result ↔ ¬ RunsOut result := by
  constructor
  · rintro fuelled ⟨left, out⟩
    exact fuelled _ out rfl
  · rintro lasting ⟨cause, left⟩ refused rfl
    exact lasting ⟨left, refused⟩

theorem runsOut_bind_iff {x : Except Refusal α} {f : α → Except Refusal β} :
    RunsOut (x >>= f) ↔ RunsOut x ∨ ∃ a, x = .ok a ∧ RunsOut (f a) := by
  cases x with
  | ok a => simp [RunsOut]
  | error refusal => simp [RunsOut]

theorem eq_cons_of_runsOut_expect {symbol : Symbol} {cause : ParseCause} {tokens : List Token}
    {f : List Token → Except Refusal β} (known : cause ≠ .outOfFuel)
    (out : RunsOut (expect symbol cause tokens >>= f)) :
    ∃ rest, tokens = .symbol symbol :: rest ∧ RunsOut (f rest) := by
  obtain ⟨left, refused⟩ | ⟨rest, read, out⟩ := runsOut_bind_iff.mp out
  · exact absurd (cause_of_expect_eq_error refused).symm known
  · exact ⟨rest, expect_eq_ok read, out⟩

theorem runsOut_of_closed {γ : Type} {x : Except Refusal (α × List Token)} {close : Symbol}
    {cause : ParseCause} (known : cause ≠ .outOfFuel) (f : α → γ) (out : RunsOut (do
      let read ← x
      let rest ← expect close cause read.2
      return (f read.1, rest))) : RunsOut x := by
  obtain out | ⟨read, _, closing⟩ := runsOut_bind_iff.mp out
  · exact out
  · obtain ⟨rest, _, done⟩ := eq_cons_of_runsOut_expect known closing
    exact absurd done (not_runsOut_ok _)

/-- The second result is the first, unless the first is a refusal for want of fuel. -/
def Extends (result more : Except Refusal α) : Prop :=
  ¬ RunsOut result → more = result

theorem Extends.refl (result : Except Refusal α) : Extends result result :=
  fun _ => rfl

theorem extends_outOfFuel (tokens : List Token) (more : Except Refusal α) :
    Extends (.error ⟨.outOfFuel, tokens⟩) more :=
  fun lasting => absurd ⟨tokens, rfl⟩ lasting

theorem Extends.bind {x y : Except Refusal α} {f g : α → Except Refusal β} (first : Extends x y)
    (next : ∀ a, Extends (f a) (g a)) : Extends (x >>= f) (y >>= g) := by
  intro lasting
  rw [first fun out => lasting (runsOut_bind_iff.mpr (.inl out))]
  cases x with
  | error refusal => rfl
  | ok a => exact next a lasting

theorem Extends.ite {condition : Prop} [Decidable condition] {x y x' y' : Except Refusal α}
    (holds : Extends x x') (fails : Extends y y') :
    Extends (if condition then x else y) (if condition then x' else y') := by
  by_cases here : condition
  · rw [if_pos here, if_pos here]
    exact holds
  · rw [if_neg here, if_neg here]
    exact fails

end

/-- All parsing functions keep their answers when they are given `more` fuel instead of `less`. -/
structure Steady (less more : Nat) : Prop where
  whole : ∀ tokens, Extends (parseTernary less tokens) (parseTernary more tokens)
  levels : ∀ remaining tokens,
    Extends (parseLevels less remaining tokens) (parseLevels more remaining tokens)
  operands : ∀ level tighter left tokens, Extends (parseOperands less level tighter left tokens)
    (parseOperands more level tighter left tokens)
  unary : ∀ tokens, Extends (parseUnary less tokens) (parseUnary more tokens)
  steps : ∀ optional receiver tokens,
    Extends (parseSteps less optional receiver tokens) (parseSteps more optional receiver tokens)
  property : ∀ optional receiver tokens, Extends (parseProperty less optional receiver tokens)
    (parseProperty more optional receiver tokens)
  primary : ∀ tokens, Extends (parsePrimary less tokens) (parsePrimary more tokens)
  arguments : ∀ tokens, Extends (parseArguments less tokens) (parseArguments more tokens)
  items : ∀ close tokens, Extends (parseItems less close tokens) (parseItems more close tokens)
  fields : ∀ tokens, Extends (parseFields less tokens) (parseFields more tokens)
  field : ∀ tokens, Extends (parseField less tokens) (parseField more tokens)

theorem steady_zero (more : Nat) : Steady 0 more := by
  constructor <;> intros <;> exact extends_outOfFuel _ _

section

variable {less more : Nat} (steady : Steady less more)
include steady

theorem extends_parseTernary (tokens : List Token) :
    Extends (parseTernary (less + 1) tokens) (parseTernary (more + 1) tokens) := by
  rw [parseTernary, parseTernary]
  refine (steady.levels _ tokens).bind fun condition => .ite ?_ (.refl _)
  refine (steady.whole _).bind fun yes => (Extends.refl _).bind fun middle => ?_
  exact (steady.whole middle).bind fun _ => .refl _

theorem extends_parseLevels (remaining : List Level) (tokens : List Token) :
    Extends (parseLevels (less + 1) remaining tokens)
      (parseLevels (more + 1) remaining tokens) := by
  cases remaining with
  | nil =>
    rw [parseLevels, parseLevels]
    exact steady.unary tokens
  | cons level tighter =>
    rw [parseLevels, parseLevels]
    exact (steady.levels tighter tokens).bind fun left => steady.operands level tighter _ _

theorem extends_parseOperands (level : Level) (tighter : List Level) (left : Expr)
    (tokens : List Token) :
    Extends (parseOperands (less + 1) level tighter left tokens)
      (parseOperands (more + 1) level tighter left tokens) := by
  rw [parseOperands, parseOperands]
  cases level.operator? (peek tokens) with
  | none => exact .refl _
  | some op =>
    exact (steady.levels tighter _).bind fun right => steady.operands level tighter _ _

theorem extends_parseUnary (tokens : List Token) :
    Extends (parseUnary (less + 1) tokens) (parseUnary (more + 1) tokens) := by
  rw [parseUnary, parseUnary]
  cases unaryOperator? (peek tokens) with
  | none => exact (steady.primary tokens).bind fun receiver => steady.steps false _ _
  | some op => exact (steady.unary _).bind fun _ => .refl _

theorem extends_parseSteps (optional : Bool) (receiver : Expr) (tokens : List Token) :
    Extends (parseSteps (less + 1) optional receiver tokens)
      (parseSteps (more + 1) optional receiver tokens) := by
  rw [parseSteps, parseSteps]
  refine .ite (steady.property optional receiver _) (.ite (steady.property true _ _)
    (.ite ?_ (.refl _)))
  refine (steady.whole _).bind fun place => (Extends.refl _).bind fun rest => ?_
  exact steady.steps optional _ rest

theorem extends_parseProperty (optional : Bool) (receiver : Expr) (tokens : List Token) :
    Extends (parseProperty (less + 1) optional receiver tokens)
      (parseProperty (more + 1) optional receiver tokens) := by
  rw [parseProperty, parseProperty]
  cases peek tokens with
  | name property =>
    refine .ite ?_ (steady.steps optional _ _)
    exact (steady.arguments _).bind fun arguments => steady.steps optional _ _
  | _ => exact .refl _

theorem extends_parsePrimary (tokens : List Token) :
    Extends (parsePrimary (less + 1) tokens) (parsePrimary (more + 1) tokens) := by
  rw [parsePrimary, parsePrimary]
  cases peek tokens with
  | name s => exact .ite ((steady.arguments _).bind fun _ => .refl _) (.refl _)
  | symbol s =>
    cases s with
    | openParen => exact (steady.whole _).bind fun _ => .refl _
    | openBracket => exact (steady.items _ _).bind fun _ => .refl _
    | openBrace => exact (steady.fields _).bind fun _ => .refl _
    | _ => exact .refl _
  | _ => exact .refl _

theorem extends_parseArguments (tokens : List Token) :
    Extends (parseArguments (less + 1) tokens) (parseArguments (more + 1) tokens) := by
  rw [parseArguments, parseArguments]
  refine (Extends.refl _).bind fun inner => ?_
  exact (steady.items _ inner).bind fun _ => .refl _

theorem extends_parseItems (close : Symbol) (tokens : List Token) :
    Extends (parseItems (less + 1) close tokens) (parseItems (more + 1) close tokens) := by
  rw [parseItems, parseItems]
  refine .ite (.refl _) ((steady.whole tokens).bind fun item => .ite ?_ (.refl _))
  exact (steady.items close _).bind fun _ => .refl _

theorem extends_parseFields (tokens : List Token) :
    Extends (parseFields (less + 1) tokens) (parseFields (more + 1) tokens) := by
  rw [parseFields, parseFields]
  refine .ite (.refl _) ((steady.field tokens).bind fun field => .ite ?_ (.refl _))
  exact (steady.fields _).bind fun _ => .refl _

theorem extends_parseField (tokens : List Token) :
    Extends (parseField (less + 1) tokens) (parseField (more + 1) tokens) := by
  have value (key : String) : Extends
      (do
        let read ← parseTernary less (← expect .colon .noKeyColon tokens.tail)
        return ((key, read.1), read.2))
      (do
        let read ← parseTernary more (← expect .colon .noKeyColon tokens.tail)
        return ((key, read.1), read.2)) :=
    (Extends.refl _).bind fun rest => (steady.whole rest).bind fun _ => .refl _
  rw [parseField, parseField]
  cases peek tokens with
  | name s => exact value s
  | text s => exact value s
  | _ => exact .refl _

end

/-- No parsing function changes an answer that it gives with less fuel. -/
theorem steady {less more : Nat} (le : less ≤ more) : Steady less more := by
  induction less generalizing more with
  | zero => exact steady_zero more
  | succ less ih =>
    obtain ⟨more, rfl⟩ : ∃ fuel, more = fuel + 1 := ⟨more - 1, by omega⟩
    have ih := ih (Nat.le_of_succ_le_succ le)
    exact {
      whole := extends_parseTernary ih
      levels := extends_parseLevels ih
      operands := extends_parseOperands ih
      unary := extends_parseUnary ih
      steps := extends_parseSteps ih
      property := extends_parseProperty ih
      primary := extends_parsePrimary ih
      arguments := extends_parseArguments ih
      items := extends_parseItems ih
      fields := extends_parseFields ih
      field := extends_parseField ih }

end LiveConfig.Grammar
