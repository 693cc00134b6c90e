import LiveConfig.Proofs.Failing
import LiveConfig.Proofs.Grammar.Derivation

set_option autoImplicit false

namespace LiveConfig

namespace Expr

@[simp] theorem peek_cons (token : Token) (rest : List Token) : peek (token :: rest) = token := rfl

theorem eq_cons_of_peek {tokens : List Token} {token : Token} (next : peek tokens = token)
    (real : token ≠ .eof) : tokens = token :: tokens.tail := by
  cases tokens with
  | nil => exact absurd next.symm real
  | cons first rest => rw [← next]; rfl

@[simp] theorem sees_cons_symbol (symbol other : Symbol) (rest : List Token) :
    sees symbol (.symbol other :: rest) = decide (other = symbol) := rfl

theorem sees_iff {symbol : Symbol} {tokens : List Token} :
    sees symbol tokens = true ↔ peek tokens = .symbol symbol := by
  unfold sees
  split
  · next other next =>
    rw [next]
    simp
  · next other =>
    simp only [Bool.false_eq_true, false_iff]
    exact other symbol

theorem eq_cons_of_sees {symbol : Symbol} {tokens : List Token}
    (seen : sees symbol tokens = true) : tokens = .symbol symbol :: tokens.tail :=
  eq_cons_of_peek (sees_iff.mp seen) nofun

theorem expect_eq_ok {symbol : Symbol} {cause : ParseCause} {tokens left : List Token}
    (read : expect symbol cause tokens = .ok left) : tokens = .symbol symbol :: left := by
  unfold expect at read
  split at read
  · next seen =>
    rw [← Except.ok.inj read]
    exact eq_cons_of_sees seen
  · cases read

@[simp] theorem expect_cons (symbol : Symbol) (cause : ParseCause) (rest : List Token) :
    expect symbol cause (.symbol symbol :: rest) = .ok rest := by
  simp [expect]

theorem cause_of_expect_eq_error {symbol : Symbol} {cause : ParseCause} {tokens : List Token}
    {refusal : Refusal} (refused : expect symbol cause tokens = .error refusal) :
    refusal.cause = cause := by
  unfold expect at refused
  split at refused
  · cases refused
  · rw [← Except.error.inj refused]

theorem unaryOperator?_symbol (op : UnaryOp) : unaryOperator? (.symbol op.symbol) = some op := by
  cases op <;> rfl

theorem eq_of_unaryOperator? {token : Token} {op : UnaryOp}
    (found : unaryOperator? token = some op) : token = .symbol op.symbol := by
  unfold unaryOperator? at found
  split at found <;> cases found <;> rfl

theorem operator?_eq_some_iff {p : Nat} {level : Level} (listed : levels[p]? = some level)
    {token : Token} {op : BinaryOp} :
    level.operator? token = some op ↔ op.precedence = p ∧ token = .symbol op.symbol := by
  constructor
  · intro found
    cases token with
    | symbol s =>
      rcases p with _ | _ | _ | _ | _ | _ | _ | p <;> cases listed <;> cases s <;>
        cases found <;> exact ⟨rfl, rfl⟩
    | _ => cases found
  · rintro ⟨rfl, rfl⟩
    rcases op with (_ | _ | _ | _ | _) | _ | _ | (_ | _ | _ | _) | (_ | _ | _) <;>
      cases listed <;> rfl

theorem drop_levels {p : Nat} (bounded : p < 7) :
    ∃ level, levels[p]? = some level ∧ levels.drop p = level :: levels.drop (p + 1) :=
  ⟨levels[p], List.getElem?_eq_getElem bounded, List.drop_eq_getElem_cons bounded⟩

end Expr

/-- How tightly a symbol ties what follows it to an expression before it; zero when it cannot. -/
def Symbol.tie : Symbol → Nat
  | .question => 1
  | .nullish => 2
  | .or => 3
  | .and => 4
  | .equal => 5
  | .unequal => 5
  | .less => 6
  | .lessEqual => 6
  | .greater => 6
  | .greaterEqual => 6
  | .plus => 7
  | .minus => 7
  | .star => 8
  | .slash => 8
  | .percent => 8
  | .dot => 9
  | .optionalDot => 9
  | .openBracket => 9
  | .openParen => 9
  | _ => 0

theorem BinaryOp.tie_symbol (op : BinaryOp) : op.symbol.tie = op.precedence + 2 := by
  rcases op with (_ | _ | _ | _ | _) | _ | _ | (_ | _ | _ | _) | (_ | _ | _) <;> rfl

theorem BinaryOp.precedence_lt (op : BinaryOp) : op.precedence < 7 := by
  rcases op with (_ | _ | _ | _ | _) | _ | _ | (_ | _ | _ | _) | (_ | _ | _) <;> decide

namespace Grammar

open LiveConfig.Expr

/-- The next token ties less tightly than the given bound. -/
def Ends (bound : Nat) (rest : List Token) : Prop :=
  ∀ symbol, peek rest = .symbol symbol → symbol.tie < bound

theorem Ends.mono {low high : Nat} {rest : List Token} (ends : Ends low rest) (le : low ≤ high) :
    Ends high rest :=
  fun symbol next => Nat.lt_of_lt_of_le (ends symbol next) le

theorem ends_symbol {bound : Nat} {symbol : Symbol} {rest : List Token}
    (loose : symbol.tie < bound) : Ends bound (.symbol symbol :: rest) := by
  intro other next
  cases next
  exact loose

theorem ends_eof (bound : Nat) (rest : List Token) : Ends bound (.eof :: rest) := nofun

theorem Ends.sees_eq_false {bound : Nat} {rest : List Token} (ends : Ends bound rest)
    (symbol : Symbol) (tight : bound ≤ symbol.tie) : sees symbol rest = false := by
  rw [Bool.eq_false_iff]
  intro seen
  have loose := ends symbol (sees_iff.mp seen)
  omega

theorem Ends.operator?_eq_none {p : Nat} {level : Level} {rest : List Token}
    (ends : Ends (p + 2) rest) (listed : levels[p]? = some level) :
    level.operator? (peek rest) = none := by
  cases found : level.operator? (peek rest) with
  | none => rfl
  | some op =>
    obtain ⟨tied, next⟩ := (operator?_eq_some_iff listed).mp found
    have loose := ends op.symbol next
    rw [op.tie_symbol] at loose
    omega

/-- Tokens that a primary expression can begin with. -/
def heads : Token → Bool
  | .symbol .openParen => true
  | .symbol .openBracket => true
  | .symbol .openBrace => true
  | .symbol _ => false
  | .eof => false
  | _ => true

theorem primary_head {ts : List Token} {e : Expr} (derived : Primary ts e) :
    ∃ t more, ts = t :: more ∧ heads t = true := by
  cases derived <;> exact ⟨_, _, rfl, rfl⟩

theorem chain_head {ts : List Token} {optional : Bool} {e : Expr} :
    Chain ts optional e → ∃ t more, ts = t :: more ∧ heads t = true
  | .primary head => primary_head head
  | .member receiver _ | .optionalMember receiver _ | .method receiver _ _
  | .optionalMethod receiver _ _ | .index receiver _ => by
    obtain ⟨t, more, rfl, head⟩ := chain_head receiver
    exact ⟨t, _, rfl, head⟩

/-- Tokens that an expression can begin with. -/
def opens : Token → Bool
  | .symbol .not => true
  | .symbol .minus => true
  | t => heads t

theorem opens_of_heads {t : Token} (head : heads t = true) : opens t = true := by
  unfold opens
  split
  · rfl
  · rfl
  · exact head

theorem unary_head {ts : List Token} {e : Expr} (derived : Unary ts e) :
    ∃ t more, ts = t :: more ∧ opens t = true := by
  cases derived with
  | operator op operand => exact ⟨_, _, rfl, by cases op <;> rfl⟩
  | strict chain =>
    obtain ⟨t, more, rfl, head⟩ := chain_head chain
    exact ⟨t, more, rfl, opens_of_heads head⟩
  | optional chain =>
    obtain ⟨t, more, rfl, head⟩ := chain_head chain
    exact ⟨t, more, rfl, opens_of_heads head⟩

theorem binary_head {level : Nat} {ts : List Token} {e : Expr} :
    Binary level ts e → ∃ t more, ts = t :: more ∧ opens t = true
  | .operator _ _ left _ => by
    obtain ⟨t, more, rfl, head⟩ := binary_head left
    exact ⟨t, _, rfl, head⟩
  | .tighter _ body => binary_head body
  | .operand body => unary_head body

theorem whole_head {ts : List Token} {e : Expr} (derived : Whole ts e) :
    ∃ t more, ts = t :: more ∧ opens t = true := by
  cases derived with
  | plain body => exact binary_head body
  | choice condition yes no =>
    obtain ⟨t, more, rfl, head⟩ := binary_head condition
    exact ⟨t, _, rfl, head⟩

theorem length_pos_of_whole {ts : List Token} {e : Expr} (derived : Whole ts e) :
    0 < ts.length := by
  obtain ⟨t, more, rfl, _⟩ := whole_head derived
  exact Nat.succ_pos _

theorem length_pos_of_unary {ts : List Token} {e : Expr} (derived : Unary ts e) :
    0 < ts.length := by
  obtain ⟨t, more, rfl, _⟩ := unary_head derived
  exact Nat.succ_pos _

theorem length_pos_of_binary {level : Nat} {ts : List Token} {e : Expr}
    (derived : Binary level ts e) : 0 < ts.length := by
  obtain ⟨t, more, rfl, _⟩ := binary_head derived
  exact Nat.succ_pos _

theorem sees_eq_false_of_whole {symbol : Symbol} {ts : List Token} {e : Expr} (derived : Whole ts e)
    (closing : opens (.symbol symbol) = false) (rest : List Token) :
    sees symbol (ts ++ rest) = false := by
  obtain ⟨t, more, rfl, head⟩ := whole_head derived
  rw [Bool.eq_false_iff]
  intro seen
  have next : t = .symbol symbol := sees_iff.mp seen
  rw [next, closing] at head
  cases head

theorem unaryOperator?_of_heads {t : Token} (head : heads t = true) : unaryOperator? t = none := by
  cases found : unaryOperator? t with
  | none => rfl
  | some op =>
    rw [eq_of_unaryOperator? found] at head
    cases op <;> cases head

theorem arguments_head {us : List Token} {arguments : List Expr}
    (passed : Arguments us arguments) : ∃ more, us = .symbol .openParen :: more := by
  cases passed
  exact ⟨_, rfl⟩

theorem entry_head {ts : List Token} {field : String × Expr} (entry : Entry ts field)
    (rest : List Token) : sees .closeBrace (ts ++ rest) = false := by
  cases entry <;> rfl

theorem length_pos_of_entry {ts : List Token} {field : String × Expr} (entry : Entry ts field) :
    0 < ts.length := by
  cases entry <;> exact Nat.succ_pos _

end Grammar

end LiveConfig
