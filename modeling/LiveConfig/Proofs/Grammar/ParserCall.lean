import LiveConfig.Proofs.Grammar.Steadiness

set_option autoImplicit false

/- The calls of the descent. A call of a parsing function makes further calls, each with one unit of
fuel less; which ones it makes depends on the next token and on what the calls before it have
read, but on no fuel. A call runs out of fuel exactly when one of those it makes does. -/

namespace LiveConfig.Grammar

open LiveConfig.Expr

/-- The operators of a precedence. -/
def operators (p : Nat) : Level :=
  levels[p]?.getD []

theorem operator?_operators_iff {p : Nat} {token : Token} {op : BinaryOp} :
    (operators p).operator? token = some op ↔ op.precedence = p ∧ token = .symbol op.symbol := by
  by_cases bounded : p < 7
  · obtain ⟨level, listed, _⟩ := drop_levels bounded
    rw [operators, listed, Option.getD_some]
    exact operator?_eq_some_iff listed
  · have none : levels[p]? = none := List.getElem?_eq_none (Nat.le_of_not_lt bounded)
    rw [operators, none, Option.getD_none]
    constructor
    · intro found
      cases token <;> cases found
    · rintro ⟨tied, _⟩
      have within := op.precedence_lt
      omega

/-- An expression of a precedence or a tighter one. -/
def parseBinary (p fuel : Nat) (tokens : List Token) : Except Refusal (Expr × List Token) :=
  parseLevels fuel (levels.drop p) tokens

/-- The operators of a precedence behind a left operand. -/
def parseOperandsAt (p fuel : Nat) (left : Expr) (tokens : List Token) :
    Except Refusal (Expr × List Token) :=
  parseOperands fuel (operators p) (levels.drop (p + 1)) left tokens

theorem parseBinary_of_lt {p : Nat} (bounded : p < 7) (fuel : Nat) (tokens : List Token) :
    parseBinary p (fuel + 1) tokens = (do
      let (left, rest) ← parseBinary (p + 1) fuel tokens
      parseOperandsAt p fuel left rest) := by
  obtain ⟨level, listed, dropped⟩ := drop_levels bounded
  unfold parseBinary parseOperandsAt operators
  rw [listed, Option.getD_some, dropped, parseLevels]

theorem parseBinary_of_le {p : Nat} (last : 7 ≤ p) (fuel : Nat) (tokens : List Token) :
    parseBinary p (fuel + 1) tokens = parseUnary fuel tokens := by
  have dropped : levels.drop p = [] := List.drop_eq_nil_of_le last
  rw [parseBinary, dropped, parseLevels]

/-- With some fuel the tokens are read as `a`, and `left` stands behind it. -/
def Yields {α : Type} (parse : Nat → List Token → Except Refusal (α × List Token))
    (tokens : List Token) (a : α) (left : List Token) : Prop :=
  ∃ fuel, parse fuel tokens = .ok (a, left)

/-- More fuel never changes an answer. -/
def Steadily {α : Type} (parse : Nat → List Token → Except Refusal α) : Prop :=
  ∀ less more tokens, less ≤ more → Extends (parse less tokens) (parse more tokens)

theorem steadily_parseTernary : Steadily parseTernary :=
  fun _ _ tokens le => (steady le).whole tokens

theorem steadily_parseBinary (p : Nat) : Steadily (parseBinary p) :=
  fun _ _ tokens le => (steady le).levels _ tokens

theorem steadily_parsePrimary : Steadily parsePrimary :=
  fun _ _ tokens le => (steady le).primary tokens

theorem steadily_parseArguments : Steadily parseArguments :=
  fun _ _ tokens le => (steady le).arguments tokens

theorem steadily_parseField : Steadily parseField :=
  fun _ _ tokens le => (steady le).field tokens

section

variable {α β : Type} {parse : Nat → List Token → Except Refusal (α × List Token)}
  {tokens left : List Token} {a : α} {fuel : Nat}

/-- What some fuel yields is the answer with any other fuel that does not run out. -/
theorem Yields.eq_ok (read : Yields parse tokens a left) (steadily : Steadily parse)
    (lasting : ¬ RunsOut (parse fuel tokens)) : parse fuel tokens = .ok (a, left) := by
  obtain ⟨enough, done⟩ := read
  -- Whichever of the two amounts is the lesser, the answer it gives is that of the other.
  rcases Nat.le_total enough fuel with le | le
  · rw [steadily _ _ tokens le (done ▸ not_runsOut_ok _), done]
  · rw [← steadily _ _ tokens le lasting, done]

theorem Yields.runsOut_bind (read : Yields parse tokens a left) (steadily : Steadily parse)
    {f : α × List Token → Except Refusal β} (out : RunsOut (f (a, left))) :
    RunsOut (parse fuel tokens >>= f) := by
  by_cases first : RunsOut (parse fuel tokens)
  · exact runsOut_bind_iff.mpr (.inl first)
  · exact runsOut_bind_iff.mpr (.inr ⟨_, read.eq_ok steadily first, out⟩)

end

/-- A call of one of the parsing functions. -/
inductive ParserCall where
  | whole (tokens : List Token)
  /-- Operators of precedence `p` and tighter ones; from seven on there are none. -/
  | binary (p : Nat) (tokens : List Token)
  /-- The loop over the operators of precedence `p`. -/
  | operands (p : Nat) (left : Expr) (tokens : List Token)
  | unary (tokens : List Token)
  /-- The loop over the steps of a chain. -/
  | steps (optional : Bool) (receiver : Expr) (tokens : List Token)
  /-- The part of that loop behind a point. -/
  | property (optional : Bool) (receiver : Expr) (tokens : List Token)
  | primary (tokens : List Token)
  | arguments (tokens : List Token)
  /-- The loop over the items of a list. -/
  | items (close : Symbol) (tokens : List Token)
  /-- The loop over the entries of an object. -/
  | fields (tokens : List Token)
  | field (tokens : List Token)

def ParserCall.tokens : ParserCall → List Token
  | .whole tokens => tokens
  | .binary _ tokens => tokens
  | .operands _ _ tokens => tokens
  | .unary tokens => tokens
  | .steps _ _ tokens => tokens
  | .property _ _ tokens => tokens
  | .primary tokens => tokens
  | .arguments tokens => tokens
  | .items _ tokens => tokens
  | .fields tokens => tokens
  | .field tokens => tokens

/-- The call ends with a refusal for want of fuel. -/
def ParserCall.RunsOut (fuel : Nat) : ParserCall → Prop
  | .whole tokens => Grammar.RunsOut (parseTernary fuel tokens)
  | .binary p tokens => Grammar.RunsOut (parseBinary p fuel tokens)
  | .operands p left tokens => Grammar.RunsOut (parseOperandsAt p fuel left tokens)
  | .unary tokens => Grammar.RunsOut (parseUnary fuel tokens)
  | .steps optional receiver tokens =>
    Grammar.RunsOut (parseSteps fuel optional receiver tokens)
  | .property optional receiver tokens =>
    Grammar.RunsOut (parseProperty fuel optional receiver tokens)
  | .primary tokens => Grammar.RunsOut (parsePrimary fuel tokens)
  | .arguments tokens => Grammar.RunsOut (parseArguments fuel tokens)
  | .items close tokens => Grammar.RunsOut (parseItems fuel close tokens)
  | .fields tokens => Grammar.RunsOut (parseFields fuel tokens)
  | .field tokens => Grammar.RunsOut (parseField fuel tokens)

/-- The first call makes the second. -/
inductive ParserCall.Makes : ParserCall → ParserCall → Prop where
  | condition {ts : List Token} : Makes (.whole ts) (.binary 0 ts)
  | yes {ts us : List Token} {c : Expr}
      (condition : Yields (parseBinary 0) ts c (.symbol .question :: us)) :
      Makes (.whole ts) (.whole us)
  | no {ts us vs : List Token} {c y : Expr}
      (condition : Yields (parseBinary 0) ts c (.symbol .question :: us))
      (yes : Yields parseTernary us y (.symbol .colon :: vs)) : Makes (.whole ts) (.whole vs)
  | tighter {p : Nat} {ts : List Token} (bounded : p < 7) :
      Makes (.binary p ts) (.binary (p + 1) ts)
  | operators {p : Nat} {ts us : List Token} {l : Expr} (bounded : p < 7)
      (left : Yields (parseBinary (p + 1)) ts l us) : Makes (.binary p ts) (.operands p l us)
  | operand {p : Nat} {ts : List Token} (last : 7 ≤ p) : Makes (.binary p ts) (.unary ts)
  | right {p : Nat} {l : Expr} {ts : List Token} (op : BinaryOp) (tied : op.precedence = p) :
      Makes (.operands p l (.symbol op.symbol :: ts)) (.binary (p + 1) ts)
  | further {p : Nat} {l r : Expr} {ts us : List Token} (op : BinaryOp) (tied : op.precedence = p)
      (right : Yields (parseBinary (p + 1)) ts r us) :
      Makes (.operands p l (.symbol op.symbol :: ts)) (.operands p (.binary op l r) us)
  | sign {ts : List Token} (op : UnaryOp) : Makes (.unary (.symbol op.symbol :: ts)) (.unary ts)
  | head {ts : List Token} (bare : unaryOperator? (peek ts) = none) :
      Makes (.unary ts) (.primary ts)
  | chain {ts us : List Token} {e : Expr} (bare : unaryOperator? (peek ts) = none)
      (head : Yields parsePrimary ts e us) : Makes (.unary ts) (.steps false e us)
  | point {optional : Bool} {e : Expr} {ts : List Token} :
      Makes (.steps optional e (.symbol .dot :: ts)) (.property optional e ts)
  | optionalPoint {optional : Bool} {e : Expr} {ts : List Token} :
      Makes (.steps optional e (.symbol .optionalDot :: ts)) (.property true (.guard e) ts)
  | place {optional : Bool} {e : Expr} {ts : List Token} :
      Makes (.steps optional e (.symbol .openBracket :: ts)) (.whole ts)
  | indexed {optional : Bool} {e i : Expr} {ts us : List Token}
      (place : Yields parseTernary ts i (.symbol .closeBracket :: us)) :
      Makes (.steps optional e (.symbol .openBracket :: ts)) (.steps optional (.index e i) us)
  | passed {optional : Bool} {e : Expr} {s : String} {ts : List Token} :
      Makes (.property optional e (.name s :: .symbol .openParen :: ts))
        (.arguments (.symbol .openParen :: ts))
  | method {optional : Bool} {e : Expr} {s : String} {arguments : List Expr} {ts us : List Token}
      (passed : Yields parseArguments (.symbol .openParen :: ts) arguments us) :
      Makes (.property optional e (.name s :: .symbol .openParen :: ts))
        (.steps optional (.call s (e :: arguments)) us)
  | member {optional : Bool} {e : Expr} {s : String} {ts : List Token}
      (bare : sees .openParen ts = false) :
      Makes (.property optional e (.name s :: ts)) (.steps optional (.member e s) ts)
  | function {s : String} {ts : List Token} :
      Makes (.primary (.name s :: .symbol .openParen :: ts)) (.arguments (.symbol .openParen :: ts))
  | group {ts : List Token} : Makes (.primary (.symbol .openParen :: ts)) (.whole ts)
  | array {ts : List Token} :
      Makes (.primary (.symbol .openBracket :: ts)) (.items .closeBracket ts)
  | object {ts : List Token} : Makes (.primary (.symbol .openBrace :: ts)) (.fields ts)
  | listed {ts : List Token} :
      Makes (.arguments (.symbol .openParen :: ts)) (.items .closeParen ts)
  | item {close : Symbol} {ts : List Token} (opened : sees close ts = false) :
      Makes (.items close ts) (.whole ts)
  | nextItem {close : Symbol} {ts us : List Token} {e : Expr} (opened : sees close ts = false)
      (item : Yields parseTernary ts e (.symbol .comma :: us)) :
      Makes (.items close ts) (.items close us)
  | entry {ts : List Token} (opened : sees .closeBrace ts = false) : Makes (.fields ts) (.field ts)
  | nextEntry {ts us : List Token} {field : String × Expr} (opened : sees .closeBrace ts = false)
      (entry : Yields parseField ts field (.symbol .comma :: us)) : Makes (.fields ts) (.fields us)
  | named {s : String} {ts : List Token} :
      Makes (.field (.name s :: .symbol .colon :: ts)) (.whole ts)
  | quoted {s : String} {ts : List Token} :
      Makes (.field (.text s :: .symbol .colon :: ts)) (.whole ts)

theorem ParserCall.Makes.runsOut {call next : ParserCall} (makes : call.Makes next) {fuel : Nat}
    (out : next.RunsOut fuel) : call.RunsOut (fuel + 1) := by
  cases makes with
  | condition =>
    rw [ParserCall.RunsOut, parseTernary]
    exact runsOut_bind_iff.mpr (.inl out)
  | yes condition =>
    rw [ParserCall.RunsOut, parseTernary]
    refine condition.runsOut_bind (steadily_parseBinary 0) ?_
    exact runsOut_bind_iff.mpr (.inl out)
  | no condition yes =>
    rw [ParserCall.RunsOut, parseTernary]
    refine condition.runsOut_bind (steadily_parseBinary 0) ?_
    refine yes.runsOut_bind steadily_parseTernary ?_
    dsimp only
    rw [expect_cons, ok_bind]
    exact runsOut_bind_iff.mpr (.inl out)
  | tighter bounded =>
    rw [ParserCall.RunsOut, parseBinary_of_lt bounded]
    exact runsOut_bind_iff.mpr (.inl out)
  | operators bounded left =>
    rw [ParserCall.RunsOut, parseBinary_of_lt bounded]
    exact left.runsOut_bind (steadily_parseBinary _) out
  | operand last =>
    rw [ParserCall.RunsOut, parseBinary_of_le last]
    exact out
  | right op tied =>
    rw [ParserCall.RunsOut, parseOperandsAt, parseOperands, peek_cons,
      operator?_operators_iff.mpr ⟨tied, rfl⟩]
    exact runsOut_bind_iff.mpr (.inl out)
  | further op tied right =>
    rw [ParserCall.RunsOut, parseOperandsAt, parseOperands, peek_cons,
      operator?_operators_iff.mpr ⟨tied, rfl⟩]
    exact right.runsOut_bind (steadily_parseBinary _) out
  | sign op =>
    rw [ParserCall.RunsOut, parseUnary, peek_cons, unaryOperator?_symbol]
    exact runsOut_bind_iff.mpr (.inl out)
  | head bare =>
    rw [ParserCall.RunsOut, parseUnary, bare]
    exact runsOut_bind_iff.mpr (.inl out)
  | chain bare head =>
    rw [ParserCall.RunsOut, parseUnary, bare]
    exact head.runsOut_bind steadily_parsePrimary out
  | point =>
    rw [ParserCall.RunsOut, parseSteps]
    exact out
  | optionalPoint =>
    rw [ParserCall.RunsOut, parseSteps]
    exact out
  | place =>
    rw [ParserCall.RunsOut, parseSteps]
    exact runsOut_bind_iff.mpr (.inl out)
  | indexed place =>
    rw [ParserCall.RunsOut, parseSteps]
    refine place.runsOut_bind steadily_parseTernary ?_
    dsimp only
    rw [expect_cons, ok_bind]
    exact out
  | passed =>
    rw [ParserCall.RunsOut, parseProperty]
    exact runsOut_bind_iff.mpr (.inl out)
  | method passed =>
    rw [ParserCall.RunsOut, parseProperty]
    exact passed.runsOut_bind steadily_parseArguments out
  | member bare =>
    rw [ParserCall.RunsOut, parseProperty, peek_cons]
    dsimp only
    rw [List.tail_cons, bare]
    exact out
  | function =>
    rw [ParserCall.RunsOut, parsePrimary]
    exact runsOut_bind_iff.mpr (.inl out)
  | group =>
    rw [ParserCall.RunsOut, parsePrimary]
    exact runsOut_bind_iff.mpr (.inl out)
  | array =>
    rw [ParserCall.RunsOut, parsePrimary]
    exact runsOut_bind_iff.mpr (.inl out)
  | object =>
    rw [ParserCall.RunsOut, parsePrimary]
    exact runsOut_bind_iff.mpr (.inl out)
  | listed =>
    rw [ParserCall.RunsOut, parseArguments, expect_cons, ok_bind]
    exact runsOut_bind_iff.mpr (.inl out)
  | item opened =>
    rw [ParserCall.RunsOut, parseItems, opened]
    exact runsOut_bind_iff.mpr (.inl out)
  | nextItem opened item =>
    rw [ParserCall.RunsOut, parseItems, opened]
    refine item.runsOut_bind steadily_parseTernary ?_
    exact runsOut_bind_iff.mpr (.inl out)
  | entry opened =>
    rw [ParserCall.RunsOut, parseFields, opened]
    exact runsOut_bind_iff.mpr (.inl out)
  | nextEntry opened entry =>
    rw [ParserCall.RunsOut, parseFields, opened]
    refine entry.runsOut_bind steadily_parseField ?_
    exact runsOut_bind_iff.mpr (.inl out)
  | named =>
    rw [ParserCall.RunsOut, parseField]
    refine runsOut_bind_iff.mpr (.inr ⟨_, rfl, ?_⟩)
    dsimp only
    rw [List.tail_cons, expect_cons, ok_bind]
    exact runsOut_bind_iff.mpr (.inl out)
  | quoted =>
    rw [ParserCall.RunsOut, parseField]
    refine runsOut_bind_iff.mpr (.inr ⟨_, rfl, ?_⟩)
    dsimp only
    rw [List.tail_cons, expect_cons, ok_bind]
    exact runsOut_bind_iff.mpr (.inl out)

section

variable {fuel : Nat} {tokens : List Token}

theorem exists_makes_whole (out : RunsOut (parseTernary (fuel + 1) tokens)) :
    ∃ next, ParserCall.Makes (.whole tokens) next ∧ next.RunsOut fuel := by
  rw [parseTernary] at out
  obtain out | ⟨⟨c, rest⟩, first, out⟩ := runsOut_bind_iff.mp out
  · exact ⟨_, .condition, out⟩
  dsimp only at out
  split at out
  · next seen =>
    rw [eq_cons_of_sees seen] at first
    obtain out | ⟨⟨y, middle⟩, second, out⟩ := runsOut_bind_iff.mp out
    · exact ⟨_, .yes ⟨fuel, first⟩, out⟩
    obtain ⟨after, rfl, out⟩ := eq_cons_of_runsOut_expect (by simp) out
    obtain out | ⟨_, _, out⟩ := runsOut_bind_iff.mp out
    · exact ⟨_, .no ⟨fuel, first⟩ ⟨fuel, second⟩, out⟩
    · exact absurd out (not_runsOut_ok _)
  · exact absurd out (not_runsOut_ok _)

theorem exists_makes_binary {p : Nat} (out : RunsOut (parseBinary p (fuel + 1) tokens)) :
    ∃ next, ParserCall.Makes (.binary p tokens) next ∧ next.RunsOut fuel := by
  by_cases bounded : p < 7
  · rw [parseBinary_of_lt bounded] at out
    obtain out | ⟨⟨l, rest⟩, first, out⟩ := runsOut_bind_iff.mp out
    · exact ⟨_, .tighter bounded, out⟩
    · exact ⟨_, .operators bounded ⟨fuel, first⟩, out⟩
  · have last : 7 ≤ p := by omega
    rw [parseBinary_of_le last] at out
    exact ⟨_, .operand last, out⟩

theorem exists_makes_operands {p : Nat} {l : Expr}
    (out : RunsOut (parseOperandsAt p (fuel + 1) l tokens)) :
    ∃ next, ParserCall.Makes (.operands p l tokens) next ∧ next.RunsOut fuel := by
  rw [parseOperandsAt, parseOperands] at out
  split at out
  · exact absurd out (not_runsOut_ok _)
  · next op found =>
    obtain ⟨tied, next⟩ := operator?_operators_iff.mp found
    rw [eq_cons_of_peek next (by simp)]
    obtain out | ⟨⟨r, rest⟩, first, out⟩ := runsOut_bind_iff.mp out
    · exact ⟨_, .right op tied, out⟩
    · exact ⟨_, .further op tied ⟨fuel, first⟩, out⟩

theorem exists_makes_unary (out : RunsOut (parseUnary (fuel + 1) tokens)) :
    ∃ next, ParserCall.Makes (.unary tokens) next ∧ next.RunsOut fuel := by
  rw [parseUnary] at out
  split at out
  · next bare =>
    obtain out | ⟨⟨e, rest⟩, first, out⟩ := runsOut_bind_iff.mp out
    · exact ⟨_, .head bare, out⟩
    · exact ⟨_, .chain bare ⟨fuel, first⟩, out⟩
  · next op found =>
    rw [eq_cons_of_peek (eq_of_unaryOperator? found) (by simp)]
    obtain out | ⟨_, _, out⟩ := runsOut_bind_iff.mp out
    · exact ⟨_, .sign op, out⟩
    · exact absurd out (not_runsOut_ok _)

theorem exists_makes_steps {optional : Bool} {e : Expr}
    (out : RunsOut (parseSteps (fuel + 1) optional e tokens)) :
    ∃ next, ParserCall.Makes (.steps optional e tokens) next ∧ next.RunsOut fuel := by
  rw [parseSteps] at out
  split at out
  · next seen =>
    rw [eq_cons_of_sees seen]
    exact ⟨_, .point, out⟩
  · split at out
    · next seen =>
      rw [eq_cons_of_sees seen]
      exact ⟨_, .optionalPoint, out⟩
    · split at out
      · next seen =>
        rw [eq_cons_of_sees seen]
        obtain out | ⟨⟨i, rest⟩, first, out⟩ := runsOut_bind_iff.mp out
        · exact ⟨_, .place, out⟩
        obtain ⟨after, rfl, out⟩ := eq_cons_of_runsOut_expect (by simp) out
        exact ⟨_, .indexed ⟨fuel, first⟩, out⟩
      · exact absurd out (not_runsOut_ok _)

theorem exists_makes_property {optional : Bool} {e : Expr}
    (out : RunsOut (parseProperty (fuel + 1) optional e tokens)) :
    ∃ next, ParserCall.Makes (.property optional e tokens) next ∧ next.RunsOut fuel := by
  rw [parseProperty] at out
  split at out
  · next s next =>
    rw [eq_cons_of_peek next (by simp)]
    split at out
    · next seen =>
      rw [eq_cons_of_sees seen] at out ⊢
      obtain out | ⟨⟨arguments, rest⟩, first, out⟩ := runsOut_bind_iff.mp out
      · exact ⟨_, .passed, out⟩
      · exact ⟨_, .method ⟨fuel, first⟩, out⟩
    · next bare =>
      exact ⟨_, .member (Bool.eq_false_iff.mpr bare), out⟩
  · obtain ⟨left, refused⟩ := out
    cases refused

theorem exists_makes_primary (out : RunsOut (parsePrimary (fuel + 1) tokens)) :
    ∃ next, ParserCall.Makes (.primary tokens) next ∧ next.RunsOut fuel := by
  rw [parsePrimary] at out
  split at out
  · exact absurd out (not_runsOut_ok _)
  · exact absurd out (not_runsOut_ok _)
  · exact absurd out (not_runsOut_ok _)
  · exact absurd out (not_runsOut_ok _)
  · next s next =>
    rw [eq_cons_of_peek next (by simp)]
    split at out
    · next seen =>
      rw [eq_cons_of_sees seen] at out ⊢
      obtain out | ⟨_, _, done⟩ := runsOut_bind_iff.mp out
      · exact ⟨_, .function, out⟩
      · exact absurd done (not_runsOut_ok _)
    · exact absurd out (not_runsOut_ok _)
  · next next =>
    rw [eq_cons_of_peek next (by simp)]
    exact ⟨_, .group, runsOut_of_closed (by simp) id out⟩
  · next next =>
    rw [eq_cons_of_peek next (by simp)]
    exact ⟨_, .array, runsOut_of_closed (by simp) Expr.array out⟩
  · next next =>
    rw [eq_cons_of_peek next (by simp)]
    exact ⟨_, .object, runsOut_of_closed (by simp) Expr.object out⟩
  · obtain ⟨left, refused⟩ := out
    cases refused

theorem exists_makes_arguments (out : RunsOut (parseArguments (fuel + 1) tokens)) :
    ∃ next, ParserCall.Makes (.arguments tokens) next ∧ next.RunsOut fuel := by
  rw [parseArguments] at out
  obtain ⟨inner, rfl, inside⟩ := eq_cons_of_runsOut_expect (by simp) out
  exact ⟨_, .listed, runsOut_of_closed (by simp) id inside⟩

theorem exists_makes_items {close : Symbol} (out : RunsOut (parseItems (fuel + 1) close tokens)) :
    ∃ next, ParserCall.Makes (.items close tokens) next ∧ next.RunsOut fuel := by
  rw [parseItems] at out
  split at out
  · exact absurd out (not_runsOut_ok _)
  · next opened =>
    rw [Bool.not_eq_true] at opened
    obtain out | ⟨⟨e, rest⟩, first, out⟩ := runsOut_bind_iff.mp out
    · exact ⟨_, .item opened, out⟩
    dsimp only at out
    split at out
    · next seen =>
      rw [eq_cons_of_sees seen] at first
      obtain out | ⟨_, _, out⟩ := runsOut_bind_iff.mp out
      · exact ⟨_, .nextItem opened ⟨fuel, first⟩, out⟩
      · exact absurd out (not_runsOut_ok _)
    · exact absurd out (not_runsOut_ok _)

theorem exists_makes_fields (out : RunsOut (parseFields (fuel + 1) tokens)) :
    ∃ next, ParserCall.Makes (.fields tokens) next ∧ next.RunsOut fuel := by
  rw [parseFields] at out
  split at out
  · exact absurd out (not_runsOut_ok _)
  · next opened =>
    rw [Bool.not_eq_true] at opened
    obtain out | ⟨⟨field, rest⟩, first, out⟩ := runsOut_bind_iff.mp out
    · exact ⟨_, .entry opened, out⟩
    dsimp only at out
    split at out
    · next seen =>
      rw [eq_cons_of_sees seen] at first
      obtain out | ⟨_, _, out⟩ := runsOut_bind_iff.mp out
      · exact ⟨_, .nextEntry opened ⟨fuel, first⟩, out⟩
      · exact absurd out (not_runsOut_ok _)
    · exact absurd out (not_runsOut_ok _)

theorem runsOut_value {key : String} {rest : List Token} (out : RunsOut (do
      let read ← parseTernary fuel (← expect .colon .noKeyColon rest)
      return ((key, read.1), read.2))) :
    ∃ after, rest = .symbol .colon :: after ∧ RunsOut (parseTernary fuel after) := by
  obtain ⟨after, colon, value⟩ := eq_cons_of_runsOut_expect (by simp) out
  obtain out | ⟨_, _, done⟩ := runsOut_bind_iff.mp value
  · exact ⟨after, colon, out⟩
  · exact absurd done (not_runsOut_ok _)

theorem exists_makes_field (out : RunsOut (parseField (fuel + 1) tokens)) :
    ∃ next, ParserCall.Makes (.field tokens) next ∧ next.RunsOut fuel := by
  rw [parseField] at out
  split at out
  · next s next =>
    obtain ⟨after, colon, out⟩ := runsOut_value out
    rw [eq_cons_of_peek next (by simp), colon]
    exact ⟨_, .named, out⟩
  · next s next =>
    obtain ⟨after, colon, out⟩ := runsOut_value out
    rw [eq_cons_of_peek next (by simp), colon]
    exact ⟨_, .quoted, out⟩
  · obtain ⟨left, refused⟩ := out
    cases refused

end

/-- With some fuel of its own a call runs out exactly when one of those that it makes does. -/
theorem ParserCall.runsOut_succ_iff {call : ParserCall} {fuel : Nat} :
    call.RunsOut (fuel + 1) ↔ ∃ next, call.Makes next ∧ next.RunsOut fuel := by
  constructor
  · intro out
    cases call with
    | whole tokens => exact exists_makes_whole out
    | binary p tokens => exact exists_makes_binary out
    | operands p left tokens => exact exists_makes_operands out
    | unary tokens => exact exists_makes_unary out
    | steps optional receiver tokens => exact exists_makes_steps out
    | property optional receiver tokens => exact exists_makes_property out
    | primary tokens => exact exists_makes_primary out
    | arguments tokens => exact exists_makes_arguments out
    | items close tokens => exact exists_makes_items out
    | fields tokens => exact exists_makes_fields out
    | field tokens => exact exists_makes_field out
  · rintro ⟨next, makes, out⟩
    exact makes.runsOut out

theorem ParserCall.runsOut_zero (call : ParserCall) : call.RunsOut 0 := by
  cases call <;> exact ⟨_, rfl⟩

end LiveConfig.Grammar
