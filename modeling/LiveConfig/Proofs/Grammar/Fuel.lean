import LiveConfig.Proofs.Grammar.Soundness

set_option autoImplicit false

namespace LiveConfig.Grammar

open LiveConfig.Expr

/-- The result is no refusal for want of fuel. -/
abbrev Fuelled {α : Type} (result : Except Refusal α) : Prop :=
  FailsWith (fun refusal => refusal.cause ≠ .outOfFuel) result

theorem fuelled_expect {symbol : Symbol} {cause : ParseCause} {tokens : List Token}
    (known : cause ≠ .outOfFuel) : Fuelled (expect symbol cause tokens) := by
  intro refusal refused
  rw [cause_of_expect_eq_error refused]
  exact known

theorem length_of_sees {symbol : Symbol} {tokens : List Token}
    (seen : sees symbol tokens = true) : tokens.length = tokens.tail.length + 1 :=
  congrArg List.length (eq_cons_of_sees seen)

theorem length_of_peek {token : Token} {tokens : List Token} (next : peek tokens = token)
    (real : token ≠ .eof) : tokens.length = tokens.tail.length + 1 :=
  congrArg List.length (eq_cons_of_peek next real)

theorem length_of_expect {symbol : Symbol} {cause : ParseCause} {tokens left : List Token}
    (read : expect symbol cause tokens = .ok left) : tokens.length = left.length + 1 :=
  congrArg List.length (expect_eq_ok read)

theorem ReadFrom.length_lt {α : Type} {derives : List Token → α → Prop} {tokens : List Token}
    {result : α × List Token} (read : ReadFrom derives tokens result)
    (taken : ∀ used, derives used result.1 → 0 < used.length) :
    result.2.length < tokens.length := by
  obtain ⟨used, split, derived⟩ := read
  have some := taken used derived
  rw [split, List.length_append]
  omega

theorem length_lt_of_parseTernary {fuel : Nat} {tokens : List Token} {result : Expr × List Token}
    (read : parseTernary fuel tokens = .ok result) : result.2.length < tokens.length :=
  ((sound fuel).whole read).length_lt fun _ => length_pos_of_whole

theorem length_lt_of_parseLevels {fuel p : Nat} {tokens : List Token} {result : Expr × List Token}
    (bounded : p ≤ 7) (read : parseLevels fuel (levels.drop p) tokens = .ok result) :
    result.2.length < tokens.length :=
  ((sound fuel).binary bounded read).length_lt fun _ => length_pos_of_binary

theorem length_lt_of_parsePrimary {fuel : Nat} {tokens : List Token} {result : Expr × List Token}
    (read : parsePrimary fuel tokens = .ok result) : result.2.length < tokens.length := by
  refine ((sound fuel).primary read).length_lt fun used derived => ?_
  obtain ⟨t, more, rfl, _⟩ := primary_head derived
  exact Nat.succ_pos _

theorem length_lt_of_parseArguments {fuel : Nat} {tokens : List Token}
    {result : List Expr × List Token} (read : parseArguments fuel tokens = .ok result) :
    result.2.length < tokens.length := by
  refine ((sound fuel).arguments read).length_lt fun used derived => ?_
  obtain ⟨more, rfl⟩ := arguments_head derived
  exact Nat.succ_pos _

theorem length_lt_of_parseField {fuel : Nat} {tokens : List Token}
    {result : (String × Expr) × List Token} (read : parseField fuel tokens = .ok result) :
    result.2.length < tokens.length :=
  ((sound fuel).field read).length_lt fun _ => length_pos_of_entry

/-- How much fuel each parsing function needs for its tokens. -/
structure Enough (fuel : Nat) : Prop where
  whole : ∀ tokens, 16 * tokens.length + 16 ≤ fuel → Fuelled (parseTernary fuel tokens)
  binary : ∀ p tokens, p ≤ 7 → 16 * tokens.length + 15 ≤ fuel + p →
    Fuelled (parseLevels fuel (levels.drop p) tokens)
  operands : ∀ p level left tokens, levels[p]? = some level → 16 * tokens.length + 16 ≤ fuel →
    Fuelled (parseOperands fuel level (levels.drop (p + 1)) left tokens)
  unary : ∀ tokens, 16 * tokens.length + 7 ≤ fuel → Fuelled (parseUnary fuel tokens)
  steps : ∀ optional receiver tokens, 16 * tokens.length + 20 ≤ fuel →
    Fuelled (parseSteps fuel optional receiver tokens)
  property : ∀ optional receiver tokens, 16 * tokens.length + 20 ≤ fuel →
    Fuelled (parseProperty fuel optional receiver tokens)
  primary : ∀ tokens, 16 * tokens.length + 6 ≤ fuel → Fuelled (parsePrimary fuel tokens)
  arguments : ∀ tokens, 16 * tokens.length + 20 ≤ fuel → Fuelled (parseArguments fuel tokens)
  items : ∀ close tokens, 16 * tokens.length + 18 ≤ fuel → Fuelled (parseItems fuel close tokens)
  fields : ∀ tokens, 16 * tokens.length + 20 ≤ fuel → Fuelled (parseFields fuel tokens)
  field : ∀ tokens, 16 * tokens.length + 18 ≤ fuel → Fuelled (parseField fuel tokens)

theorem enough_zero : Enough 0 := by
  constructor <;> intros <;> omega

section

variable {fuel : Nat} (enough : Enough fuel)
include enough

theorem fuelled_parseTernary (tokens : List Token) (bound : 16 * tokens.length + 16 ≤ fuel + 1) :
    Fuelled (parseTernary (fuel + 1) tokens) := by
  rw [parseTernary]
  refine (enough.binary 0 tokens (by omega) (by omega)).bind fun result first => ?_
  obtain ⟨c, rest⟩ := result
  have shorter := length_lt_of_parseLevels (p := 0) (by omega) first
  dsimp only at shorter ⊢
  split
  · next seen =>
    have question := length_of_sees seen
    refine (enough.whole rest.tail (by omega)).bind fun result second => ?_
    obtain ⟨y, middle⟩ := result
    have further := length_lt_of_parseTernary second
    dsimp only at further ⊢
    refine (fuelled_expect (by simp)).bind fun after read => ?_
    have colon := length_of_expect read
    exact (enough.whole after (by omega)).bind fun _ _ => failsWith_ok _ _
  · exact failsWith_ok _ _

theorem fuelled_parseLevels (p : Nat) (tokens : List Token) (bounded : p ≤ 7)
    (bound : 16 * tokens.length + 15 ≤ fuel + 1 + p) :
    Fuelled (parseLevels (fuel + 1) (levels.drop p) tokens) := by
  by_cases last : p = 7
  · subst last
    rw [show levels.drop 7 = [] from rfl, parseLevels]
    exact enough.unary tokens (by omega)
  · obtain ⟨level, listed, dropped⟩ := drop_levels (show p < 7 by omega)
    rw [dropped, parseLevels]
    refine (enough.binary (p + 1) tokens (by omega) (by omega)).bind fun result first => ?_
    obtain ⟨l, rest⟩ := result
    have shorter := length_lt_of_parseLevels (by omega) first
    dsimp only at shorter
    exact enough.operands p level l rest listed (by omega)

theorem fuelled_parseOperands (p : Nat) (level : Level) (l : Expr) (tokens : List Token)
    (listed : levels[p]? = some level) (bound : 16 * tokens.length + 16 ≤ fuel + 1) :
    Fuelled (parseOperands (fuel + 1) level (levels.drop (p + 1)) l tokens) := by
  have bounded : p < 7 := (List.getElem?_eq_some_iff.mp listed).1
  rw [parseOperands]
  split
  · exact failsWith_ok _ _
  · next op found =>
    obtain ⟨_, next⟩ := (operator?_eq_some_iff listed).mp found
    have taken := length_of_peek next (by simp)
    refine (enough.binary (p + 1) tokens.tail (by omega) (by omega)).bind fun result first => ?_
    obtain ⟨r, rest⟩ := result
    have shorter := length_lt_of_parseLevels (by omega) first
    dsimp only at shorter
    exact enough.operands p level _ rest listed (by omega)

theorem fuelled_parseUnary (tokens : List Token) (bound : 16 * tokens.length + 7 ≤ fuel + 1) :
    Fuelled (parseUnary (fuel + 1) tokens) := by
  rw [parseUnary]
  split
  · refine (enough.primary tokens (by omega)).bind fun result first => ?_
    obtain ⟨receiver, rest⟩ := result
    have shorter := length_lt_of_parsePrimary first
    dsimp only at shorter
    exact enough.steps false receiver rest (by omega)
  · next op found =>
    have taken := length_of_peek (eq_of_unaryOperator? found) (by simp)
    exact (enough.unary tokens.tail (by omega)).bind fun _ _ => failsWith_ok _ _

theorem fuelled_parseSteps (optional : Bool) (receiver : Expr) (tokens : List Token)
    (bound : 16 * tokens.length + 20 ≤ fuel + 1) :
    Fuelled (parseSteps (fuel + 1) optional receiver tokens) := by
  rw [parseSteps]
  split
  · next seen =>
    have dot := length_of_sees seen
    exact enough.property optional receiver tokens.tail (by omega)
  · split
    · next seen =>
      have dot := length_of_sees seen
      exact enough.property true (.guard receiver) tokens.tail (by omega)
    · split
      · next seen =>
        have opened := length_of_sees seen
        refine (enough.whole tokens.tail (by omega)).bind fun result first => ?_
        obtain ⟨place, rest⟩ := result
        have shorter := length_lt_of_parseTernary first
        dsimp only at shorter ⊢
        refine (fuelled_expect (by simp)).bind fun after read => ?_
        have closed := length_of_expect read
        exact enough.steps optional _ after (by omega)
      · exact failsWith_ok _ _

theorem fuelled_parseProperty (optional : Bool) (receiver : Expr) (tokens : List Token)
    (bound : 16 * tokens.length + 20 ≤ fuel + 1) :
    Fuelled (parseProperty (fuel + 1) optional receiver tokens) := by
  rw [parseProperty]
  split
  · next property next =>
    have name := length_of_peek next (by simp)
    split
    · refine (enough.arguments tokens.tail (by omega)).bind fun result first => ?_
      obtain ⟨arguments, rest⟩ := result
      have shorter := length_lt_of_parseArguments first
      dsimp only at shorter
      exact enough.steps optional _ rest (by omega)
    · exact enough.steps optional _ tokens.tail (by omega)
  · exact failsWith_error (by simp)

theorem fuelled_parseArguments (tokens : List Token)
    (bound : 16 * tokens.length + 20 ≤ fuel + 1) :
    Fuelled (parseArguments (fuel + 1) tokens) := by
  rw [parseArguments]
  refine (fuelled_expect (by simp)).bind fun inner read => ?_
  have opened := length_of_expect read
  refine (enough.items _ inner (by omega)).bind fun result _ => ?_
  obtain ⟨items, rest⟩ := result
  exact (fuelled_expect (by simp)).bind fun _ _ => failsWith_ok _ _

theorem fuelled_parseItems (close : Symbol) (tokens : List Token)
    (bound : 16 * tokens.length + 18 ≤ fuel + 1) :
    Fuelled (parseItems (fuel + 1) close tokens) := by
  rw [parseItems]
  split
  · exact failsWith_ok _ _
  · refine (enough.whole tokens (by omega)).bind fun result first => ?_
    obtain ⟨e, rest⟩ := result
    have shorter := length_lt_of_parseTernary first
    dsimp only at shorter ⊢
    split
    · next seen =>
      have comma := length_of_sees seen
      exact (enough.items close rest.tail (by omega)).bind fun _ _ => failsWith_ok _ _
    · exact failsWith_ok _ _

theorem fuelled_parseFields (tokens : List Token) (bound : 16 * tokens.length + 20 ≤ fuel + 1) :
    Fuelled (parseFields (fuel + 1) tokens) := by
  rw [parseFields]
  split
  · exact failsWith_ok _ _
  · refine (enough.field tokens (by omega)).bind fun result first => ?_
    obtain ⟨field, rest⟩ := result
    have shorter := length_lt_of_parseField first
    dsimp only at shorter ⊢
    split
    · next seen =>
      have comma := length_of_sees seen
      exact (enough.fields rest.tail (by omega)).bind fun _ _ => failsWith_ok _ _
    · exact failsWith_ok _ _

theorem fuelled_parseField (tokens : List Token) (bound : 16 * tokens.length + 18 ≤ fuel + 1) :
    Fuelled (parseField (fuel + 1) tokens) := by
  have value (key : String) : Fuelled (do
      let read ← parseTernary fuel (← expect .colon .noKeyColon tokens.tail)
      return ((key, read.1), read.2)) := by
    refine (fuelled_expect (by simp)).bind fun after read => ?_
    have colon := length_of_expect read
    have tail := List.length_tail (l := tokens)
    exact (enough.whole after (by omega)).bind fun _ _ => failsWith_ok _ _
  rw [parseField]
  split
  · exact value _
  · exact value _
  · exact failsWith_error (by simp)

theorem fuelled_parsePrimary (tokens : List Token) (bound : 16 * tokens.length + 6 ≤ fuel + 1) :
    Fuelled (parsePrimary (fuel + 1) tokens) := by
  rw [parsePrimary]
  split
  · exact failsWith_ok _ _
  · exact failsWith_ok _ _
  · exact failsWith_ok _ _
  · exact failsWith_ok _ _
  · next s next =>
    have name := length_of_peek next (by simp)
    split
    · exact (enough.arguments tokens.tail (by omega)).bind fun _ _ => failsWith_ok _ _
    · exact failsWith_ok _ _
  · next next =>
    have opened := length_of_peek next (by simp)
    refine (enough.whole tokens.tail (by omega)).bind fun result _ => ?_
    obtain ⟨_, _⟩ := result
    exact (fuelled_expect (by simp)).bind fun _ _ => failsWith_ok _ _
  · next next =>
    have opened := length_of_peek next (by simp)
    refine (enough.items _ tokens.tail (by omega)).bind fun result _ => ?_
    obtain ⟨_, _⟩ := result
    exact (fuelled_expect (by simp)).bind fun _ _ => failsWith_ok _ _
  · next next =>
    have opened := length_of_peek next (by simp)
    refine (enough.fields tokens.tail (by omega)).bind fun result _ => ?_
    obtain ⟨_, _⟩ := result
    exact (fuelled_expect (by simp)).bind fun _ _ => failsWith_ok _ _
  · exact failsWith_error (by simp)

end

/-- The stated fuel is enough, however much of it there is. -/
theorem enough (fuel : Nat) : Enough fuel := by
  induction fuel with
  | zero => exact enough_zero
  | succ fuel ih =>
    exact {
      whole := fuelled_parseTernary ih
      binary := fuelled_parseLevels ih
      operands := fuelled_parseOperands ih
      unary := fuelled_parseUnary ih
      steps := fuelled_parseSteps ih
      property := fuelled_parseProperty ih
      primary := fuelled_parsePrimary ih
      arguments := fuelled_parseArguments ih
      items := fuelled_parseItems ih
      fields := fuelled_parseFields ih
      field := fuelled_parseField ih }

theorem fuelled_parseTokens (tokens : List Token) : Fuelled (parseTokens tokens) := by
  unfold parseTokens
  split
  · exact failsWith_error (by simp)
  · refine ((enough _).whole tokens (by unfold fuelFor; omega)).bind fun _ _ => ?_
    dsimp only
    split
    · exact failsWith_ok _ _
    · exact failsWith_error (by simp)

end LiveConfig.Grammar
