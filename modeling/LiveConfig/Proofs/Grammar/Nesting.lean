import LiveConfig.Proofs.Grammar.ParserCall
import LiveConfig.Proofs.Grammar.Completeness

set_option autoImplicit false

/- How deep the descent goes. An expression takes at least one token, so does every round of a loop,
and between two tokens each precedence is passed once; so the calls nest no deeper than a
multiple of the number of tokens, whether these form an expression or not, and fuel for that
depth is enough. -/

namespace LiveConfig.Grammar

open LiveConfig.Expr

/-- At least one token stands in front of the rest. -/
def Takes (tokens left : List Token) : Prop :=
  ∃ taken, taken ≠ [] ∧ tokens = taken ++ left

theorem takes_tail (t : Token) (ts : List Token) : Takes (t :: ts) ts :=
  ⟨[t], List.cons_ne_nil _ _, rfl⟩

theorem Takes.before {ts us : List Token} (takes : Takes ts us) (t : Token) :
    Takes (t :: ts) us := by
  obtain ⟨taken, _, rfl⟩ := takes
  exact ⟨t :: taken, List.cons_ne_nil _ _, rfl⟩

theorem Takes.tail {ts us : List Token} {t : Token} (takes : Takes ts (t :: us)) : Takes ts us := by
  obtain ⟨taken, _, rfl⟩ := takes
  exact ⟨taken ++ [t], List.append_ne_nil_of_right_ne_nil _ (List.cons_ne_nil _ _),
    List.append_cons ..⟩

theorem ne_nil_of_length_pos {ts : List Token} (some : 0 < ts.length) : ts ≠ [] :=
  List.length_pos_iff.mp some

theorem takes_of_yields_whole {ts us : List Token} {e : Expr}
    (read : Yields parseTernary ts e us) : Takes ts us := by
  obtain ⟨fuel, done⟩ := read
  obtain ⟨used, split, derived⟩ := (sound fuel).whole done
  exact ⟨used, ne_nil_of_length_pos (length_pos_of_whole derived), split⟩

theorem takes_of_yields_binary {p : Nat} (bounded : p ≤ 7) {ts us : List Token} {e : Expr}
    (read : Yields (parseBinary p) ts e us) : Takes ts us := by
  obtain ⟨fuel, done⟩ := read
  obtain ⟨used, split, derived⟩ := (sound fuel).binary bounded done
  exact ⟨used, ne_nil_of_length_pos (length_pos_of_binary derived), split⟩

theorem takes_of_yields_arguments {ts us : List Token} {arguments : List Expr}
    (read : Yields parseArguments ts arguments us) : Takes ts us := by
  obtain ⟨fuel, done⟩ := read
  obtain ⟨used, split, derived⟩ := (sound fuel).arguments done
  obtain ⟨more, rfl⟩ := arguments_head derived
  exact ⟨_, List.cons_ne_nil _ _, split⟩

theorem takes_of_yields_field {ts us : List Token} {field : String × Expr}
    (read : Yields parseField ts field us) : Takes ts us := by
  obtain ⟨fuel, done⟩ := read
  obtain ⟨used, split, derived⟩ := (sound fuel).field done
  exact ⟨used, ne_nil_of_length_pos (length_pos_of_entry derived), split⟩

/-- The loops of the descent. -/
inductive Loop where
  | operands (p : Nat)
  | steps
  | items (close : Symbol)
  | fields

/-- The loop that a call goes round in. -/
def ParserCall.loop? : ParserCall → Option Loop
  | .operands p _ _ => some (.operands p)
  | .steps _ _ _ => some .steps
  | .property _ _ _ => some .steps
  | .items close _ => some (.items close)
  | .fields _ => some .fields
  | _ => none

/-- Whatever goes round in a loop has taken a token before it comes again. -/
theorem ParserCall.Makes.takes_of_loop {call next : ParserCall} (makes : call.Makes next) {loop : Loop}
    (here : call.loop? = some loop) (again : next.loop? = some loop) :
    Takes call.tokens next.tokens := by
  cases makes with
  | further op tied right =>
    have bounded := op.precedence_lt
    exact (takes_of_yields_binary (by omega) right).before _
  | point => exact takes_tail _ _
  | optionalPoint => exact takes_tail _ _
  | indexed place => exact (takes_of_yields_whole place).tail.before _
  | method passed => exact (takes_of_yields_arguments passed).before _
  | member bare => exact takes_tail _ _
  | nextItem opened item => exact (takes_of_yields_whole item).tail
  | nextEntry opened entry => exact (takes_of_yields_field entry).tail
  | right op tied => cases again
  | place => cases again
  | passed => cases again
  | item opened => cases again
  | entry opened => cases again
  | _ => cases here

theorem length_le_of_items {ts : List Token} {items : List Expr} (derived : Items ts items) :
    items.length ≤ ts.length := by
  cases derived with
  | none => exact Nat.le_refl 0
  | last item => exact length_pos_of_whole item
  | more item rest =>
    have some := length_pos_of_whole item
    have others := length_le_of_items rest
    simp only [List.length_cons, List.length_append]
    omega

theorem length_le_of_entries {ts : List Token} {fields : List (String × Expr)}
    (derived : Entries ts fields) : fields.length ≤ ts.length := by
  cases derived with
  | none => exact Nat.le_refl 0
  | last entry => exact length_pos_of_entry entry
  | more entry rest =>
    have some := length_pos_of_entry entry
    have others := length_le_of_entries rest
    simp only [List.length_cons, List.length_append]
    omega

/-- The first call makes a call that makes a call, and so on, down to the second one. -/
inductive Nested : Nat → ParserCall → ParserCall → Prop where
  | here (call : ParserCall) : Nested 0 call call
  | deeper {depth : Nat} {call next deep : ParserCall} (makes : call.Makes next)
      (below : Nested depth next deep) : Nested (depth + 1) call deep

/-- Fuel runs out exactly when the calls nest as deep as it reaches. -/
theorem ParserCall.runsOut_iff_nested {fuel : Nat} {call : ParserCall} :
    call.RunsOut fuel ↔ ∃ deep, Nested fuel call deep := by
  induction fuel generalizing call with
  | zero => exact ⟨fun _ => ⟨call, .here call⟩, fun _ => call.runsOut_zero⟩
  | succ fuel ih =>
    rw [ParserCall.runsOut_succ_iff]
    constructor
    · rintro ⟨next, makes, out⟩
      obtain ⟨deep, below⟩ := ih.mp out
      exact ⟨deep, .deeper makes below⟩
    · rintro ⟨deep, nested⟩
      cases nested with
      | deeper makes below => exact ⟨_, makes, ih.mpr ⟨deep, below⟩⟩

theorem not_runsOut_operands {p : Nat} (beyond : 7 ≤ p) (fuel : Nat) (left : Expr)
    (tokens : List Token) : ¬ RunsOut (parseOperandsAt p (fuel + 1) left tokens) := by
  have none : (operators p).operator? (peek tokens) = none := by
    cases found : (operators p).operator? (peek tokens) with
    | none => rfl
    | some op =>
      obtain ⟨tied, _⟩ := operator?_operators_iff.mp found
      have within := op.precedence_lt
      omega
  rw [parseOperandsAt, parseOperands, none]
  exact not_runsOut_ok _

/-- Every call has enough with the same multiple, loops and lists included. -/
theorem ParserCall.not_runsOut {call : ParserCall} {fuel : Nat}
    (bound : 20 * (call.tokens.length + 1) ≤ fuel) : ¬ call.RunsOut fuel := by
  have enough := enough fuel
  cases call <;> rw [ParserCall.tokens] at bound
  case whole tokens => exact fuelled_iff.mp (enough.whole tokens (by omega))
  case binary p tokens =>
    rw [ParserCall.RunsOut, parseBinary]
    by_cases bounded : p ≤ 7
    · exact fuelled_iff.mp (enough.binary p tokens bounded (by omega))
    · have same : levels.drop p = levels.drop 7 :=
        List.drop_eq_nil_of_le (Nat.le_of_not_le bounded)
      rw [same]
      exact fuelled_iff.mp (enough.binary 7 tokens (Nat.le_refl 7) (by omega))
  case operands p left tokens =>
    rw [ParserCall.RunsOut]
    -- A precedence that the table lacks has no operators, so its loop ends at once.
    by_cases bounded : p < 7
    · obtain ⟨level, listed, _⟩ := drop_levels bounded
      rw [parseOperandsAt, operators, listed, Option.getD_some]
      exact fuelled_iff.mp (enough.operands p level left tokens listed (by omega))
    · obtain ⟨fuel, rfl⟩ := exists_succ_of_pos (show 0 < fuel by omega)
      exact not_runsOut_operands (Nat.le_of_not_lt bounded) fuel left tokens
  case unary tokens => exact fuelled_iff.mp (enough.unary tokens (by omega))
  case steps optional receiver tokens =>
    exact fuelled_iff.mp (enough.steps optional receiver tokens (by omega))
  case property optional receiver tokens =>
    exact fuelled_iff.mp (enough.property optional receiver tokens (by omega))
  case primary tokens => exact fuelled_iff.mp (enough.primary tokens (by omega))
  case arguments tokens => exact fuelled_iff.mp (enough.arguments tokens (by omega))
  case items close tokens => exact fuelled_iff.mp (enough.items close tokens (by omega))
  case fields tokens => exact fuelled_iff.mp (enough.fields tokens (by omega))
  case field tokens => exact fuelled_iff.mp (enough.field tokens (by omega))

theorem Nested.depth_lt {depth : Nat} {call deep : ParserCall} (nested : Nested depth call deep) :
    depth < 20 * (call.tokens.length + 1) :=
  Nat.lt_of_not_le fun bound =>
    ParserCall.not_runsOut bound (ParserCall.runsOut_iff_nested.mpr ⟨deep, nested⟩)

/-- What is read as one expression, loosest first. -/
inductive Phrase where
  | whole
  | binary (precedence : Fin 7)
  | unary
  | chain
  | primary

def Phrase.parse (fuel : Nat) : Phrase → List Token → Except Refusal (Expr × List Token)
  | .whole => parseTernary fuel
  | .binary p => parseBinary p fuel
  | .unary => parseUnary fuel
  | .chain => parseChain fuel
  | .primary => parsePrimary fuel

/-- The phrase is written with the tokens. -/
def Phrase.Writes : Phrase → List Token → Expr → Prop
  | .whole => Whole
  | .binary p => Binary p
  | .unary => Unary
  | .chain => Unary
  | .primary => Primary

theorem Phrase.length_pos {phrase : Phrase} {ts : List Token} {e : Expr}
    (written : phrase.Writes ts e) : 0 < ts.length := by
  cases phrase with
  | whole => exact length_pos_of_whole written
  | binary p => exact length_pos_of_binary written
  | unary => exact length_pos_of_unary written
  | chain => exact length_pos_of_unary written
  | primary =>
    obtain ⟨t, more, rfl, _⟩ := primary_head written
    exact Nat.succ_pos _

theorem Phrase.readFrom_of_parse (phrase : Phrase) {fuel : Nat} {tokens : List Token}
    {result : Expr × List Token} (read : phrase.parse fuel tokens = .ok result) :
    ReadFrom phrase.Writes tokens result := by
  cases phrase with
  | whole => exact (sound fuel).whole read
  | binary p => exact (sound fuel).binary (Nat.le_of_lt p.isLt) read
  | unary => exact (sound fuel).unary read
  | chain =>
    obtain ⟨⟨receiver, rest⟩, first, read⟩ := bind_eq_ok_iff.mp read
    obtain ⟨hs, split, head⟩ := (sound fuel).primary first
    dsimp only at read split head
    obtain ⟨used, taken, body⟩ := (sound fuel).steps (.primary head) read
    exact ⟨hs ++ used, by rw [split, taken, List.append_assoc], body⟩
  | primary => exact (sound fuel).primary read

theorem Phrase.fuelled_parse (phrase : Phrase) {fuel : Nat} {tokens : List Token}
    (bound : 16 * (tokens.length + 1) ≤ fuel) : Fuelled (phrase.parse fuel tokens) := by
  have enough := enough fuel
  cases phrase with
  | whole => exact enough.whole tokens (by omega)
  | binary p => exact enough.binary p tokens (Nat.le_of_lt p.isLt) (by omega)
  | unary => exact enough.unary tokens (by omega)
  | chain =>
    refine (enough.primary tokens (by omega)).bind fun result first => ?_
    obtain ⟨receiver, rest⟩ := result
    have shorter := length_lt_of_parsePrimary first
    dsimp only at shorter
    exact enough.steps false receiver rest (by omega)
  | primary => exact enough.primary tokens (by omega)

theorem Phrase.extends_parse (phrase : Phrase) {less more : Nat} (le : less ≤ more)
    (tokens : List Token) : Extends (phrase.parse less tokens) (phrase.parse more tokens) := by
  have steady := steady le
  cases phrase with
  | whole => exact steady.whole tokens
  | binary p => exact steady.levels _ tokens
  | unary => exact steady.unary tokens
  | chain => exact (steady.primary tokens).bind fun _ => steady.steps false _ _
  | primary => exact steady.primary tokens

theorem length_of_parseItems {fuel : Nat} {close : Symbol} {tokens left : List Token}
    {items : List Expr} (read : parseItems fuel close tokens = .ok (items, left)) :
    items.length + left.length ≤ tokens.length := by
  obtain ⟨used, split, derived⟩ := (sound fuel).items read
  dsimp only at split derived
  have each := length_le_of_items derived
  rw [split, List.length_append]
  omega

theorem length_of_parseFields {fuel : Nat} {tokens left : List Token}
    {fields : List (String × Expr)} (read : parseFields fuel tokens = .ok (fields, left)) :
    fields.length + left.length ≤ tokens.length := by
  obtain ⟨used, split, derived⟩ := (sound fuel).fields read
  dsimp only at split derived
  have each := length_le_of_entries derived
  rw [split, List.length_append]
  omega

/-- Over any tokens, whether they form an expression and end or not: a phrase that is read has taken
at least one of them and nothing behind them, namely those it is written with; a loop takes one in
every round, and so a list has no more items than tokens; the calls nest less deep than a fixed
multiple of one plus their number, which is how far the fuel has to reach; and with that much of it,
or any more, a phrase has one and the same answer, which is not that fuel ran out. -/
theorem descent_within_tokens (tokens : List Token) :
    (∀ (phrase : Phrase) fuel e left, phrase.parse fuel tokens = .ok (e, left) →
      ∃ taken, taken ≠ [] ∧ tokens = taken ++ left ∧ phrase.Writes taken e) ∧
    (∀ (call next : ParserCall) loop, call.tokens = tokens → call.Makes next →
      call.loop? = some loop → next.loop? = some loop →
      ∃ taken, taken ≠ [] ∧ tokens = taken ++ next.tokens) ∧
    (∀ fuel close items left, parseItems fuel close tokens = .ok (items, left) →
      items.length + left.length ≤ tokens.length) ∧
    (∀ fuel fields left, parseFields fuel tokens = .ok (fields, left) →
      fields.length + left.length ≤ tokens.length) ∧
    (∀ call : ParserCall, call.tokens = tokens →
      (∀ depth deep, Nested depth call deep → depth < 20 * (tokens.length + 1)) ∧
      ∀ fuel, call.RunsOut fuel ↔ ∃ deep, Nested fuel call deep) ∧
    (∀ (phrase : Phrase) fuel, 16 * (tokens.length + 1) ≤ fuel →
      (∀ refusal, phrase.parse fuel tokens = .error refusal → refusal.cause ≠ .outOfFuel) ∧
      phrase.parse fuel tokens = phrase.parse (16 * (tokens.length + 1)) tokens) ∧
    ∀ refusal, parseTokens tokens = .error refusal → refusal.cause ≠ .outOfFuel := by
  refine ⟨fun phrase fuel e left read => ?_, ?_, fun _ _ _ _ => length_of_parseItems,
    fun _ _ _ => length_of_parseFields, ?_, fun phrase fuel bound => ?_, fuelled_parseTokens tokens⟩
  · obtain ⟨taken, split, written⟩ := phrase.readFrom_of_parse read
    exact ⟨taken, ne_nil_of_length_pos (phrase.length_pos written), split, written⟩
  · rintro call next loop rfl makes here again
    exact makes.takes_of_loop here again
  · rintro call rfl
    exact ⟨fun depth deep nested => nested.depth_lt, fun fuel => ParserCall.runsOut_iff_nested⟩
  · have lasting := fuelled_iff.mp (phrase.fuelled_parse (Nat.le_refl (16 * (tokens.length + 1))))
    exact ⟨phrase.fuelled_parse bound, phrase.extends_parse bound tokens lasting⟩

/-- `a + b` without an end, `a: b` as the entries of an object, and `(a`, which never closes. -/
theorem descent_within_few_tokens :
    Whole [.name "a", .symbol .plus, .name "b"]
      (.binary (.arithmetic .add) (.name "a") (.name "b")) ∧
    (∃ taken, taken ≠ [] ∧
      [Token.name "a", .symbol .plus, .name "b"] = taken ++ [.symbol .plus, .name "b"]) ∧
    (∃ items, parseItems 64 .closeParen [.name "a", .symbol .plus, .name "b"] = .ok (items, []) ∧
      items.length ≤ 3) ∧
    (∃ fields, parseFields 64 [.name "a", .symbol .colon, .name "b"] = .ok (fields, []) ∧
      fields.length ≤ 3) ∧
    (∃ deep, Nested 5 (.whole [.symbol .openParen, .name "a"]) deep) ∧
    parseTernary 1000 [.symbol .openParen, .name "a"] = .error ⟨.noCloseParen, []⟩ := by
  obtain ⟨phrases, loops, items, -⟩ :=
    descent_within_tokens [.name "a", .symbol .plus, .name "b"]
  obtain ⟨-, -, -, fields, -⟩ :=
    descent_within_tokens [.name "a", .symbol .colon, .name "b"]
  obtain ⟨-, -, -, -, depth, answers, -⟩ := descent_within_tokens [.symbol .openParen, .name "a"]
  refine ⟨?_, ?_, ⟨_, rfl, items 64 .closeParen _ _ rfl⟩, ⟨_, rfl, fields 64 _ _ rfl⟩, ?_, ?_⟩
  · obtain ⟨taken, -, split, written⟩ := phrases .whole 64 _ [] rfl
    rw [split, List.append_nil]
    exact written
  · exact loops (.property false (.name "x") _) _ .steps rfl (.member rfl) rfl rfl
  · exact ((depth (.whole _) rfl).2 5).mp ⟨_, rfl⟩
  · exact (answers .whole 1000 (by decide)).2.trans rfl

end LiveConfig.Grammar
