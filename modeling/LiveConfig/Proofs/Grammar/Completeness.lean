import LiveConfig.Proofs.Grammar.Lookahead

set_option autoImplicit false

/- Whatever the grammar writes is read by the parser, as long as the next token cannot extend it.
The fuel grows with the tokens that are taken; loops over operators and steps are followed by
what they still have to do. -/

namespace LiveConfig.Grammar

open LiveConfig.Expr

def ReadsWhole (ts : List Token) (e : Expr) : Prop :=
  ∀ fuel rest, 16 * ts.length ≤ fuel → Ends 1 rest →
    parseTernary fuel (ts ++ rest) = .ok (e, rest)

def ReadsBinary (p : Nat) (ts : List Token) (e : Expr) : Prop :=
  ∀ fuel rest, 16 * ts.length ≤ fuel + 1 + p → Ends (p + 2) rest →
    parseLevels fuel (levels.drop p) (ts ++ rest) = .ok (e, rest)

/-- After the phrase the parser stands in the loop over the operators of its level, with little of
the fuel used up. -/
def RunsBinary (p : Nat) (ts : List Token) (e : Expr) : Prop :=
  ∀ level, levels[p]? = some level → ∀ fuel rest, 16 * ts.length ≤ fuel + 1 + p →
    Ends (p + 3) rest → ∃ left, fuel ≤ left + ts.length ∧
      parseLevels fuel (levels.drop p) (ts ++ rest) =
        parseOperands left level (levels.drop (p + 1)) e rest

def ReadsUnary (ts : List Token) (e : Expr) : Prop :=
  ∀ fuel rest, 16 * ts.length ≤ fuel + 9 → Ends 9 rest →
    parseUnary fuel (ts ++ rest) = .ok (e, rest)

/-- A primary expression and the steps behind it. -/
def parseChain (fuel : Nat) (tokens : List Token) : Except Refusal (Expr × List Token) := do
  let (receiver, tokens) ← parsePrimary fuel tokens
  parseSteps fuel false receiver tokens

/-- After the phrase the parser stands in the loop over the steps of a chain. -/
def RunsChain (ts : List Token) (optional : Bool) (e : Expr) : Prop :=
  ∀ fuel rest, 16 * ts.length ≤ fuel + 10 → sees .openParen rest = false →
    ∃ left, fuel ≤ left + ts.length ∧
      parseChain fuel (ts ++ rest) = parseSteps left optional e rest

def ReadsPrimary (ts : List Token) (e : Expr) : Prop :=
  ∀ fuel rest, 16 * ts.length ≤ fuel + 10 → sees .openParen rest = false →
    parsePrimary fuel (ts ++ rest) = .ok (e, rest)

def ReadsArguments (ts : List Token) (items : List Expr) : Prop :=
  ∀ fuel rest, 16 * ts.length ≤ fuel + 15 → parseArguments fuel (ts ++ rest) = .ok (items, rest)

def ReadsItems (ts : List Token) (items : List Expr) : Prop :=
  ∀ fuel close rest, 16 * ts.length + 1 ≤ fuel → (close = .closeParen ∨ close = .closeBracket) →
    parseItems fuel close (ts ++ .symbol close :: rest) = .ok (items, .symbol close :: rest)

def ReadsEntries (ts : List Token) (fields : List (String × Expr)) : Prop :=
  ∀ fuel rest, 16 * ts.length + 1 ≤ fuel →
    parseFields fuel (ts ++ .symbol .closeBrace :: rest) = .ok (fields, .symbol .closeBrace :: rest)

def ReadsEntry (ts : List Token) (field : String × Expr) : Prop :=
  ∀ fuel rest, 16 * ts.length ≤ fuel + 16 → Ends 1 rest →
    parseField fuel (ts ++ rest) = .ok (field, rest)

theorem exists_succ_of_pos {fuel : Nat} (positive : 0 < fuel) : ∃ less, fuel = less + 1 :=
  ⟨fuel - 1, by omega⟩

theorem ReadsWhole.plain {ts : List Token} {e : Expr} (body : ReadsBinary 0 ts e)
    (some : 0 < ts.length) : ReadsWhole ts e := by
  intro fuel rest enough ends
  obtain ⟨fuel, rfl⟩ := exists_succ_of_pos (show 0 < fuel by omega)
  have read := body fuel rest (by omega) (ends.mono (by omega))
  rw [List.drop_zero] at read
  rw [parseTernary, read]
  simp only [ok_bind, ends.sees_eq_false .question (by decide)]
  rfl

theorem ReadsWhole.choice {cs ys ns : List Token} {c y n : Expr} (condition : ReadsBinary 0 cs c)
    (yes : ReadsWhole ys y) (no : ReadsWhole ns n) :
    ReadsWhole (cs ++ .symbol .question :: ys ++ .symbol .colon :: ns) (.ternary c y n) := by
  intro fuel rest enough ends
  simp only [List.length_append, List.length_cons] at enough
  obtain ⟨fuel, rfl⟩ := exists_succ_of_pos (show 0 < fuel by omega)
  have first := condition fuel (.symbol .question :: ys ++ .symbol .colon :: ns ++ rest) (by omega)
    (ends_symbol (by decide))
  have second := yes fuel (.symbol .colon :: ns ++ rest) (by omega) (ends_symbol (by decide))
  have third := no fuel rest (by omega) ends
  rw [List.drop_zero] at first
  simp only [List.append_assoc, List.cons_append] at first second third ⊢
  rw [parseTernary, first]
  simp only [ok_bind, sees_cons_symbol, decide_true, if_true, List.tail_cons, second, expect_cons,
    third]
  rfl

theorem ReadsBinary.of_runs {p : Nat} {ts : List Token} {e : Expr} (bounded : p < 7)
    (some : 0 < ts.length) (runs : RunsBinary p ts e) : ReadsBinary p ts e := by
  intro fuel rest enough ends
  obtain ⟨level, listed, _⟩ := drop_levels bounded
  obtain ⟨left, remains, read⟩ := runs level listed fuel rest enough (ends.mono (by omega))
  obtain ⟨left, rfl⟩ := exists_succ_of_pos (show 0 < left by omega)
  rw [read, parseOperands, ends.operator?_eq_none listed]
  rfl

theorem RunsBinary.tighter {p : Nat} {ts : List Token} {e : Expr} (some : 0 < ts.length)
    (body : ReadsBinary (p + 1) ts e) : RunsBinary p ts e := by
  intro level listed fuel rest enough ends
  obtain ⟨level', listed', dropped⟩ := drop_levels (List.getElem?_eq_some_iff.mp listed).1
  obtain rfl : level' = level := Option.some.inj (listed'.symm.trans listed)
  have bounded : p < 7 := (List.getElem?_eq_some_iff.mp listed).1
  obtain ⟨fuel, rfl⟩ := exists_succ_of_pos (show 0 < fuel by omega)
  refine ⟨fuel, by omega, ?_⟩
  rw [dropped, parseLevels, body fuel rest (by omega) ends]
  rfl

theorem RunsBinary.operator {ls rs : List Token} {l r : Expr} (op : BinaryOp)
    (some : 0 < ls.length) (left : RunsBinary op.precedence ls l)
    (right : ReadsBinary (op.precedence + 1) rs r) :
    RunsBinary op.precedence (ls ++ .symbol op.symbol :: rs) (.binary op l r) := by
  intro level listed fuel rest enough ends
  have bounded := op.precedence_lt
  have tie := op.tie_symbol
  simp only [List.length_append, List.length_cons] at enough ⊢
  obtain ⟨more, remains, read⟩ := left level listed fuel (.symbol op.symbol :: rs ++ rest)
    (by omega) (ends_symbol (by omega))
  obtain ⟨more, rfl⟩ := exists_succ_of_pos (show 0 < more by omega)
  refine ⟨more, by omega, ?_⟩
  rw [List.append_assoc, read, List.cons_append, parseOperands, peek_cons,
    (operator?_eq_some_iff listed).mpr ⟨rfl, rfl⟩]
  simp only [List.tail_cons, right more rest (by omega) ends, ok_bind]

theorem ReadsBinary.operand {ts : List Token} {e : Expr} (some : 0 < ts.length)
    (body : ReadsUnary ts e) : ReadsBinary 7 ts e := by
  intro fuel rest enough ends
  obtain ⟨fuel, rfl⟩ := exists_succ_of_pos (show 0 < fuel by omega)
  rw [show levels.drop 7 = [] from rfl, parseLevels]
  exact body fuel rest (by omega) ends

theorem ReadsUnary.operator {ts : List Token} {e : Expr} (op : UnaryOp)
    (operand : ReadsUnary ts e) : ReadsUnary (.symbol op.symbol :: ts) (.unary op e) := by
  intro fuel rest enough ends
  simp only [List.length_cons] at enough
  obtain ⟨fuel, rfl⟩ := exists_succ_of_pos (show 0 < fuel by omega)
  rw [List.cons_append, parseUnary, peek_cons, unaryOperator?_symbol]
  simp only [List.tail_cons, operand fuel rest (by omega) ends, ok_bind]
  rfl

theorem parseSteps_of_ends {fuel : Nat} {optional : Bool} {e : Expr} {rest : List Token}
    (ends : Ends 9 rest) :
    parseSteps (fuel + 1) optional e rest = .ok (closeChain optional e, rest) := by
  rw [parseSteps]
  simp only [ends.sees_eq_false .dot (by decide),
    ends.sees_eq_false .optionalDot (by decide),
    ends.sees_eq_false .openBracket (by decide)]
  rfl

theorem ReadsUnary.of_runs {ts : List Token} {optional : Bool} {e : Expr}
    (begins : ∃ t more, ts = t :: more ∧ heads t = true) (runs : RunsChain ts optional e) :
    ReadsUnary ts (closeChain optional e) := by
  intro fuel rest enough ends
  obtain ⟨t, more, rfl, head⟩ := begins
  simp only [List.length_cons] at enough
  obtain ⟨fuel, rfl⟩ := exists_succ_of_pos (show 0 < fuel by omega)
  obtain ⟨left, remains, read⟩ := runs fuel rest (by simp only [List.length_cons]; omega)
    (ends.sees_eq_false .openParen (by decide))
  simp only [List.length_cons] at remains
  obtain ⟨left, rfl⟩ := exists_succ_of_pos (show 0 < left by omega)
  rw [parseSteps_of_ends ends] at read
  rw [List.cons_append, parseUnary, peek_cons, unaryOperator?_of_heads head]
  exact read

theorem parseProperty_member {fuel : Nat} {optional : Bool} {e : Expr} {rest : List Token}
    (property : String) (ends : sees .openParen rest = false) :
    parseProperty (fuel + 1) optional e (.name property :: rest) =
      parseSteps fuel optional (.member e property) rest := by
  rw [parseProperty]
  simp only [peek_cons, List.tail_cons, ends, Bool.false_eq_true, if_false]

theorem parseProperty_method {fuel : Nat} {optional : Bool} {e : Expr} {us rest : List Token}
    {arguments : List Expr} (function : String)
    (begins : ∃ more, us = .symbol .openParen :: more)
    (passed : parseArguments fuel (us ++ rest) = .ok (arguments, rest)) :
    parseProperty (fuel + 1) optional e (.name function :: us ++ rest) =
      parseSteps fuel optional (.call function (e :: arguments)) rest := by
  obtain ⟨more, rfl⟩ := begins
  rw [List.cons_append, parseProperty, List.cons_append]
  simp only [peek_cons, List.tail_cons, sees_cons_symbol, decide_true, if_true]
  rw [← List.cons_append, passed]
  rfl

theorem parseSteps_dot (fuel : Nat) (optional : Bool) (e : Expr) (rest : List Token) :
    parseSteps (fuel + 1) optional e (.symbol .dot :: rest) =
      parseProperty fuel optional e rest := by
  rw [parseSteps]
  rfl

theorem parseSteps_optionalDot (fuel : Nat) (optional : Bool) (e : Expr) (rest : List Token) :
    parseSteps (fuel + 1) optional e (.symbol .optionalDot :: rest) =
      parseProperty fuel true (.guard e) rest := by
  rw [parseSteps]
  rfl

theorem RunsChain.primary {ts : List Token} {e : Expr} (head : ReadsPrimary ts e) :
    RunsChain ts false e := by
  intro fuel rest enough ends
  refine ⟨fuel, by omega, ?_⟩
  rw [parseChain, head fuel rest enough ends]
  rfl

theorem RunsChain.point {ts us : List Token} {optional marked : Bool} {e receiver longer : Expr}
    {point : Symbol} (chain : RunsChain ts optional e) (step : point ≠ .openParen)
    (taken : 0 < us.length)
    (begins : ∀ fuel rest, parseSteps (fuel + 1) optional e (.symbol point :: rest) =
      parseProperty fuel marked receiver rest)
    (goes : ∀ fuel rest, 16 * us.length ≤ fuel + 31 → sees .openParen rest = false →
      parseProperty (fuel + 1) marked receiver (us ++ rest) = parseSteps fuel marked longer rest) :
    RunsChain (ts ++ .symbol point :: us) marked longer := by
  intro fuel rest enough ends
  simp only [List.length_append, List.length_cons] at enough ⊢
  obtain ⟨left, remains, read⟩ := chain fuel (.symbol point :: us ++ rest) (by omega)
    (by simp [step])
  obtain ⟨left, rfl⟩ : ∃ less, left = less + 2 := ⟨left - 2, by omega⟩
  refine ⟨left, by omega, ?_⟩
  rw [List.append_assoc, read, List.cons_append, begins, goes left rest (by omega) ends]

theorem RunsChain.member {ts : List Token} {optional : Bool} {e : Expr}
    (receiver : RunsChain ts optional e) (property : String) :
    RunsChain (ts ++ [.symbol .dot, .name property]) optional (.member e property) :=
  receiver.point (by decide) Nat.one_pos (fun fuel rest => parseSteps_dot fuel optional e rest)
    fun _ _ _ ends => parseProperty_member property ends

theorem RunsChain.optionalMember {ts : List Token} {optional : Bool} {e : Expr}
    (receiver : RunsChain ts optional e) (property : String) :
    RunsChain (ts ++ [.symbol .optionalDot, .name property]) true
      (.member (.guard e) property) :=
  receiver.point (by decide) Nat.one_pos
    (fun fuel rest => parseSteps_optionalDot fuel optional e rest)
    fun _ _ _ ends => parseProperty_member property ends

theorem RunsChain.method {ts us : List Token} {optional : Bool} {e : Expr} {arguments : List Expr}
    (receiver : RunsChain ts optional e) (function : String)
    (begins : ∃ more, us = .symbol .openParen :: more) (passed : ReadsArguments us arguments) :
    RunsChain (ts ++ .symbol .dot :: .name function :: us) optional
      (.call function (e :: arguments)) := by
  refine receiver.point (by decide) (Nat.succ_pos _)
    (fun fuel rest => parseSteps_dot fuel optional e rest) fun fuel rest enough _ => ?_
  rw [List.length_cons] at enough
  exact parseProperty_method function begins (passed fuel rest (by omega))

theorem RunsChain.optionalMethod {ts us : List Token} {optional : Bool} {e : Expr}
    {arguments : List Expr} (receiver : RunsChain ts optional e) (function : String)
    (begins : ∃ more, us = .symbol .openParen :: more) (passed : ReadsArguments us arguments) :
    RunsChain (ts ++ .symbol .optionalDot :: .name function :: us) true
      (.call function (.guard e :: arguments)) := by
  refine receiver.point (by decide) (Nat.succ_pos _)
    (fun fuel rest => parseSteps_optionalDot fuel optional e rest) fun fuel rest enough _ => ?_
  rw [List.length_cons] at enough
  exact parseProperty_method function begins (passed fuel rest (by omega))

theorem RunsChain.index {ts us : List Token} {optional : Bool} {e place : Expr}
    (receiver : RunsChain ts optional e) (position : ReadsWhole us place) :
    RunsChain (ts ++ .symbol .openBracket :: us ++ [.symbol .closeBracket]) optional
      (.index e place) := by
  intro fuel rest enough ends
  simp only [List.length_append, List.length_cons, List.length_nil] at enough ⊢
  obtain ⟨left, remains, read⟩ := receiver fuel
    (.symbol .openBracket :: us ++ .symbol .closeBracket :: rest) (by omega) rfl
  obtain ⟨left, rfl⟩ := exists_succ_of_pos (show 0 < left by omega)
  have inner := position left (.symbol .closeBracket :: rest) (by omega)
    (ends_symbol (by decide))
  refine ⟨left, by omega, ?_⟩
  simp only [List.append_assoc, List.cons_append, List.nil_append] at read ⊢
  rw [read, parseSteps]
  simp [inner]

theorem ReadsPrimary.literal {t : Token} {e : Expr}
    (read : ∀ fuel rest, parsePrimary (fuel + 1) (t :: rest) = .ok (e, rest)) :
    ReadsPrimary [t] e := by
  intro fuel rest enough ends
  simp only [List.length_cons, List.length_nil] at enough
  obtain ⟨fuel, rfl⟩ := exists_succ_of_pos (show 0 < fuel by omega)
  exact read fuel rest

theorem ReadsPrimary.name (s : String) : ReadsPrimary [.name s] (.name s) := by
  intro fuel rest enough ends
  simp only [List.length_cons, List.length_nil] at enough
  obtain ⟨fuel, rfl⟩ := exists_succ_of_pos (show 0 < fuel by omega)
  rw [List.cons_append, List.nil_append, parsePrimary]
  simp only [peek_cons, List.tail_cons, ends, Bool.false_eq_true, if_false]
  rfl

theorem ReadsPrimary.call {us : List Token} {arguments : List Expr} (function : String)
    (begins : ∃ more, us = .symbol .openParen :: more) (passed : ReadsArguments us arguments) :
    ReadsPrimary (.name function :: us) (.call function arguments) := by
  intro fuel rest enough ends
  simp only [List.length_cons] at enough
  obtain ⟨fuel, rfl⟩ := exists_succ_of_pos (show 0 < fuel by omega)
  have closed := passed fuel rest (by omega)
  obtain ⟨more, rfl⟩ := begins
  rw [List.cons_append, parsePrimary, List.cons_append]
  simp only [peek_cons, List.tail_cons, sees_cons_symbol, decide_true, if_true]
  rw [← List.cons_append, closed]
  rfl

theorem ReadsPrimary.group {ts : List Token} {e : Expr} (body : ReadsWhole ts e) :
    ReadsPrimary (.symbol .openParen :: ts ++ [.symbol .closeParen]) e := by
  intro fuel rest enough ends
  simp only [List.length_append, List.length_cons, List.length_nil] at enough
  obtain ⟨fuel, rfl⟩ := exists_succ_of_pos (show 0 < fuel by omega)
  have inner := body fuel (.symbol .closeParen :: rest) (by omega) (ends_symbol (by decide))
  rw [List.append_assoc, List.cons_append, parsePrimary]
  simp only [peek_cons, List.tail_cons, List.cons_append, List.nil_append, inner, ok_bind,
    expect_cons]
  rfl

theorem ReadsPrimary.array {ts : List Token} {items : List Expr} (body : ReadsItems ts items) :
    ReadsPrimary (.symbol .openBracket :: ts ++ [.symbol .closeBracket]) (.array items) := by
  intro fuel rest enough ends
  simp only [List.length_append, List.length_cons, List.length_nil] at enough
  obtain ⟨fuel, rfl⟩ := exists_succ_of_pos (show 0 < fuel by omega)
  have inner := body fuel .closeBracket rest (by omega) (.inr rfl)
  rw [List.append_assoc, List.cons_append, parsePrimary]
  simp only [peek_cons, List.tail_cons, List.cons_append, List.nil_append, inner, ok_bind,
    expect_cons]
  rfl

theorem ReadsPrimary.object {ts : List Token} {fields : List (String × Expr)}
    (body : ReadsEntries ts fields) :
    ReadsPrimary (.symbol .openBrace :: ts ++ [.symbol .closeBrace]) (.object fields) := by
  intro fuel rest enough ends
  simp only [List.length_append, List.length_cons, List.length_nil] at enough
  obtain ⟨fuel, rfl⟩ := exists_succ_of_pos (show 0 < fuel by omega)
  have inner := body fuel rest (by omega)
  rw [List.append_assoc, List.cons_append, parsePrimary]
  simp only [peek_cons, List.tail_cons, List.cons_append, List.nil_append, inner, ok_bind,
    expect_cons]
  rfl

theorem ReadsArguments.mk {ts : List Token} {items : List Expr} (body : ReadsItems ts items) :
    ReadsArguments (.symbol .openParen :: ts ++ [.symbol .closeParen]) items := by
  intro fuel rest enough
  simp only [List.length_append, List.length_cons, List.length_nil] at enough
  obtain ⟨fuel, rfl⟩ := exists_succ_of_pos (show 0 < fuel by omega)
  have inner := body fuel .closeParen rest (by omega) (.inl rfl)
  rw [List.append_assoc, List.cons_append, parseArguments, expect_cons]
  simp only [List.cons_append, List.nil_append, inner, ok_bind, expect_cons]
  rfl

theorem tie_of_close {close : Symbol} (closing : close = .closeParen ∨ close = .closeBracket) :
    close.tie = 0 := by
  obtain rfl | rfl := closing <;> rfl

theorem ReadsItems.none : ReadsItems [] [] := by
  intro fuel close rest enough closing
  obtain ⟨fuel, rfl⟩ := exists_succ_of_pos (show 0 < fuel by omega)
  rw [List.nil_append, parseItems]
  simp only [sees_cons_symbol, decide_true, if_true]
  rfl

theorem ReadsItems.last {ts : List Token} {e : Expr} (item : Whole ts e) (body : ReadsWhole ts e) :
    ReadsItems ts [e] := by
  intro fuel close rest enough closing
  obtain ⟨fuel, rfl⟩ := exists_succ_of_pos (show 0 < fuel by omega)
  have inner := body fuel (.symbol close :: rest) (by omega)
    (ends_symbol (by rw [tie_of_close closing]; decide))
  have begins : sees close (ts ++ .symbol close :: rest) = false :=
    sees_eq_false_of_whole item (by obtain rfl | rfl := closing <;> rfl) _
  rw [parseItems, begins]
  simp only [Bool.false_eq_true, if_false, inner, ok_bind]
  obtain rfl | rfl := closing <;> rfl

theorem ReadsItems.more {ts us : List Token} {e : Expr} {items : List Expr} (item : Whole ts e)
    (body : ReadsWhole ts e) (others : ReadsItems us items) :
    ReadsItems (ts ++ .symbol .comma :: us) (e :: items) := by
  intro fuel close rest enough closing
  simp only [List.length_append, List.length_cons] at enough
  obtain ⟨fuel, rfl⟩ := exists_succ_of_pos (show 0 < fuel by omega)
  have inner := body fuel (.symbol .comma :: us ++ .symbol close :: rest) (by omega)
    (ends_symbol (by decide))
  have further := others fuel close rest (by omega) closing
  have begins : sees close (ts ++ (.symbol .comma :: us ++ .symbol close :: rest)) = false :=
    sees_eq_false_of_whole item (by obtain rfl | rfl := closing <;> rfl) _
  rw [List.append_assoc, parseItems, begins, inner]
  simp only [Bool.false_eq_true, if_false, ok_bind, List.cons_append, sees_cons_symbol,
    decide_true, if_true, List.tail_cons, further]
  rfl

theorem ReadsEntries.none : ReadsEntries [] [] := by
  intro fuel rest enough
  obtain ⟨fuel, rfl⟩ := exists_succ_of_pos (show 0 < fuel by omega)
  rw [List.nil_append, parseFields]
  rfl

theorem ReadsEntries.last {ts : List Token} {field : String × Expr} (entry : Entry ts field)
    (body : ReadsEntry ts field) : ReadsEntries ts [field] := by
  intro fuel rest enough
  obtain ⟨fuel, rfl⟩ := exists_succ_of_pos (show 0 < fuel by omega)
  have inner := body fuel (.symbol .closeBrace :: rest) (by omega) (ends_symbol (by decide))
  rw [parseFields, entry_head entry]
  simp only [Bool.false_eq_true, if_false, inner, ok_bind]
  rfl

theorem ReadsEntries.more {ts us : List Token} {field : String × Expr}
    {fields : List (String × Expr)} (entry : Entry ts field) (body : ReadsEntry ts field)
    (others : ReadsEntries us fields) :
    ReadsEntries (ts ++ .symbol .comma :: us) (field :: fields) := by
  intro fuel rest enough
  simp only [List.length_append, List.length_cons] at enough
  obtain ⟨fuel, rfl⟩ := exists_succ_of_pos (show 0 < fuel by omega)
  have inner := body fuel (.symbol .comma :: us ++ .symbol .closeBrace :: rest) (by omega)
    (ends_symbol (by decide))
  have further := others fuel rest (by omega)
  rw [List.append_assoc, parseFields, entry_head entry, inner]
  simp only [Bool.false_eq_true, if_false, ok_bind, List.cons_append, sees_cons_symbol,
    decide_true, if_true, List.tail_cons, further]
  rfl

theorem ReadsEntry.keyed {t : Token} {key : String} {ts : List Token} {e : Expr}
    (value : ReadsWhole ts e)
    (read : ∀ fuel rest, parseField (fuel + 1) (t :: rest) = (do
      let read ← parseTernary fuel (← expect .colon .noKeyColon rest)
      return ((key, read.1), read.2))) :
    ReadsEntry (t :: .symbol .colon :: ts) (key, e) := by
  intro fuel rest enough ends
  simp only [List.length_cons] at enough
  obtain ⟨fuel, rfl⟩ := exists_succ_of_pos (show 0 < fuel by omega)
  have inner := value fuel rest (by omega) ends
  rw [List.cons_append, List.cons_append, read, expect_cons, ok_bind, inner]
  rfl

mutual

/-- Whatever the grammar writes is read, phrase by phrase. -/
theorem readsWhole {ts : List Token} {e : Expr} : Whole ts e → ReadsWhole ts e
  | .plain body => .plain (readsBinary body) (length_pos_of_binary body)
  | .choice condition yes no =>
    .choice (readsBinary condition) (readsWhole yes) (readsWhole no)

/-- A left operand stays in the loop over the operators of its level, so the loop is what an
operator continues. -/
theorem runsBinary {p : Nat} {ts : List Token} {e : Expr} :
    Binary p ts e → p < 7 → RunsBinary p ts e
  | .operator op tied left right, bounded => by
    have runs := runsBinary left bounded
    have reads := readsBinary right
    subst tied
    exact .operator op (length_pos_of_binary left) runs reads
  | .tighter looser body, bounded => .tighter (length_pos_of_binary body) (readsBinary body)
  | .operand body, bounded => absurd bounded (Nat.lt_irrefl 7)

theorem readsBinary {p : Nat} {ts : List Token} {e : Expr} : Binary p ts e → ReadsBinary p ts e
  | .operator op tied left right => by
    have bounded : p < 7 := tied ▸ op.precedence_lt
    have some := length_pos_of_binary (.operator op tied left right)
    have runs := runsBinary left bounded
    have reads := readsBinary right
    subst tied
    exact .of_runs bounded some (.operator op (length_pos_of_binary left) runs reads)
  | .tighter looser body =>
    .of_runs looser (length_pos_of_binary body)
      (.tighter (length_pos_of_binary body) (readsBinary body))
  | .operand body => .operand (length_pos_of_unary body) (readsUnary body)

theorem readsUnary {ts : List Token} {e : Expr} : Unary ts e → ReadsUnary ts e
  | .operator op operand => .operator op (readsUnary operand)
  | .strict steps => .of_runs (chain_head steps) (runsChain steps)
  | .optional steps => .of_runs (chain_head steps) (runsChain steps)

theorem runsChain {ts : List Token} {optional : Bool} {e : Expr} :
    Chain ts optional e → RunsChain ts optional e
  | .primary head => .primary (readsPrimary head)
  | .member receiver property => .member (runsChain receiver) property
  | .optionalMember receiver property => .optionalMember (runsChain receiver) property
  | .method receiver function passed =>
    .method (runsChain receiver) function (arguments_head passed) (readsArguments passed)
  | .optionalMethod receiver function passed =>
    .optionalMethod (runsChain receiver) function (arguments_head passed) (readsArguments passed)
  | .index receiver position => .index (runsChain receiver) (readsWhole position)

theorem readsPrimary {ts : List Token} {e : Expr} : Primary ts e → ReadsPrimary ts e
  | .null => .literal fun fuel rest => by rw [parsePrimary]; rfl
  | .bool b => .literal fun fuel rest => by rw [parsePrimary]; rfl
  | .number x => .literal fun fuel rest => by rw [parsePrimary]; rfl
  | .text s => .literal fun fuel rest => by rw [parsePrimary]; rfl
  | .name s => .name s
  | .call function passed => .call function (arguments_head passed) (readsArguments passed)
  | .group body => .group (readsWhole body)
  | .array body => .array (readsItems body)
  | .object body => .object (readsEntries body)

theorem readsArguments {ts : List Token} {items : List Expr} :
    Arguments ts items → ReadsArguments ts items
  | .mk body => .mk (readsItems body)

theorem readsItems {ts : List Token} {items : List Expr} : Items ts items → ReadsItems ts items
  | .none => .none
  | .last item => .last item (readsWhole item)
  | .more item others => .more item (readsWhole item) (readsItems others)

theorem readsEntries {ts : List Token} {fields : List (String × Expr)} :
    Entries ts fields → ReadsEntries ts fields
  | .none => .none
  | .last entry => .last entry (readsEntry entry)
  | .more entry others => .more entry (readsEntry entry) (readsEntries others)

theorem readsEntry {ts : List Token} {field : String × Expr} : Entry ts field → ReadsEntry ts field
  | .name _ value => .keyed (readsWhole value) fun fuel rest => by rw [parseField]; rfl
  | .text _ value => .keyed (readsWhole value) fun fuel rest => by rw [parseField]; rfl

end

end LiveConfig.Grammar
