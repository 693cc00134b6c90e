import LiveConfig.Proofs.Grammar.Lookahead

set_option autoImplicit false

namespace LiveConfig.Grammar

open LiveConfig.Expr

/-- The tokens that were taken for a result derive it. -/
def ReadFrom {α : Type} (derives : List Token → α → Prop) (tokens : List Token)
    (result : α × List Token) : Prop :=
  ∃ used, tokens = used ++ result.2 ∧ derives used result.1

/-- All parsing functions are sound with the given fuel. -/
structure Sound (fuel : Nat) : Prop where
  whole : ∀ {tokens result}, parseTernary fuel tokens = .ok result → ReadFrom Whole tokens result
  binary : ∀ {p tokens result}, p ≤ 7 → parseLevels fuel (levels.drop p) tokens = .ok result →
    ReadFrom (Binary p) tokens result
  operands : ∀ {p level before left tokens result}, levels[p]? = some level → Binary p before left →
    parseOperands fuel level (levels.drop (p + 1)) left tokens = .ok result →
    ReadFrom (fun used => Binary p (before ++ used)) tokens result
  unary : ∀ {tokens result}, parseUnary fuel tokens = .ok result → ReadFrom Unary tokens result
  steps : ∀ {before optional receiver tokens result}, Chain before optional receiver →
    parseSteps fuel optional receiver tokens = .ok result →
    ReadFrom (fun used => Unary (before ++ used)) tokens result
  property : ∀ before {optional receiver tokens result},
    (∀ property, Chain (before ++ [.name property]) optional (.member receiver property)) →
    (∀ function us arguments, Arguments us arguments →
      Chain (before ++ .name function :: us) optional (.call function (receiver :: arguments))) →
    parseProperty fuel optional receiver tokens = .ok result →
    ReadFrom (fun used => Unary (before ++ used)) tokens result
  primary : ∀ {tokens result}, parsePrimary fuel tokens = .ok result →
    ReadFrom Primary tokens result
  arguments : ∀ {tokens result}, parseArguments fuel tokens = .ok result →
    ReadFrom Arguments tokens result
  items : ∀ {close tokens result}, parseItems fuel close tokens = .ok result →
    ReadFrom Items tokens result
  fields : ∀ {tokens result}, parseFields fuel tokens = .ok result → ReadFrom Entries tokens result
  field : ∀ {tokens result}, parseField fuel tokens = .ok result → ReadFrom Entry tokens result

theorem sound_zero : Sound 0 := by
  constructor <;> intros <;> rename_i read <;> cases read

section

variable {fuel : Nat} (sound : Sound fuel)
include sound

theorem whole_of_parse {tokens : List Token} {result : Expr × List Token}
    (read : parseTernary (fuel + 1) tokens = .ok result) : ReadFrom Whole tokens result := by
  rw [parseTernary, bind_eq_ok_iff] at read
  obtain ⟨⟨c, rest⟩, first, read⟩ := read
  obtain ⟨cs, split, condition⟩ := sound.binary (p := 0) (by omega) first
  dsimp only at read split condition
  split at read
  · next seen =>
    rw [bind_eq_ok_iff] at read
    obtain ⟨⟨y, middle⟩, second, read⟩ := read
    obtain ⟨ys, taken, yes⟩ := sound.whole second
    dsimp only at read taken yes
    rw [bind_eq_ok_iff] at read
    obtain ⟨after, colon, read⟩ := read
    rw [bind_eq_ok_iff] at read
    obtain ⟨⟨n, left⟩, third, read⟩ := read
    obtain ⟨ns, last, no⟩ := sound.whole third
    cases read
    refine ⟨_, ?_, .choice condition yes no⟩
    rw [split, eq_cons_of_sees seen, taken, expect_eq_ok colon, last]
    simp
  · cases read
    exact ⟨cs, split, .plain condition⟩

theorem binary_of_parse {p : Nat} {tokens : List Token} {result : Expr × List Token}
    (bounded : p ≤ 7) (read : parseLevels (fuel + 1) (levels.drop p) tokens = .ok result) :
    ReadFrom (Binary p) tokens result := by
  by_cases last : p = 7
  · subst last
    rw [show levels.drop 7 = [] from rfl, parseLevels] at read
    obtain ⟨used, split, body⟩ := sound.unary read
    exact ⟨used, split, .operand body⟩
  · obtain ⟨level, listed, dropped⟩ := drop_levels (show p < 7 by omega)
    rw [dropped, parseLevels, bind_eq_ok_iff] at read
    obtain ⟨⟨l, rest⟩, first, read⟩ := read
    obtain ⟨ls, split, left⟩ := sound.binary (by omega) first
    dsimp only at read split left
    obtain ⟨used, taken, body⟩ := sound.operands listed (.tighter (by omega) left) read
    refine ⟨ls ++ used, ?_, body⟩
    rw [split, taken, List.append_assoc]

theorem operands_of_parse {p : Nat} {level : Level} {before : List Token} {l : Expr}
    {tokens : List Token} {result : Expr × List Token} (listed : levels[p]? = some level)
    (left : Binary p before l)
    (read : parseOperands (fuel + 1) level (levels.drop (p + 1)) l tokens = .ok result) :
    ReadFrom (fun used => Binary p (before ++ used)) tokens result := by
  have bounded : p < 7 := (List.getElem?_eq_some_iff.mp listed).1
  rw [parseOperands] at read
  split at read
  · cases read
    exact ⟨[], rfl, by simpa using left⟩
  · next op found =>
    obtain ⟨tied, next⟩ := (operator?_eq_some_iff listed).mp found
    rw [bind_eq_ok_iff] at read
    obtain ⟨⟨r, rest⟩, first, read⟩ := read
    obtain ⟨rs, split, right⟩ := sound.binary (by omega) first
    dsimp only at read split right
    obtain ⟨used, taken, body⟩ := sound.operands listed (.operator op tied left right) read
    refine ⟨.symbol op.symbol :: rs ++ used, ?_, by simpa using body⟩
    rw [eq_cons_of_peek next (by simp), split, taken]
    simp

theorem unary_of_parse {tokens : List Token} {result : Expr × List Token}
    (read : parseUnary (fuel + 1) tokens = .ok result) : ReadFrom Unary tokens result := by
  rw [parseUnary] at read
  split at read
  · rw [bind_eq_ok_iff] at read
    obtain ⟨⟨receiver, rest⟩, first, read⟩ := read
    obtain ⟨hs, split, head⟩ := sound.primary first
    dsimp only at read split head
    obtain ⟨used, taken, body⟩ := sound.steps (.primary head) read
    refine ⟨hs ++ used, ?_, body⟩
    rw [split, taken, List.append_assoc]
  · next op found =>
    rw [bind_eq_ok_iff] at read
    obtain ⟨⟨e, rest⟩, first, read⟩ := read
    obtain ⟨used, split, operand⟩ := sound.unary first
    cases read
    refine ⟨.symbol op.symbol :: used, ?_, .operator op operand⟩
    rw [eq_cons_of_peek (eq_of_unaryOperator? found) (by simp), split]
    rfl

theorem steps_of_parse {before : List Token} {optional : Bool} {receiver : Expr}
    {tokens : List Token} {result : Expr × List Token} (chain : Chain before optional receiver)
    (read : parseSteps (fuel + 1) optional receiver tokens = .ok result) :
    ReadFrom (fun used => Unary (before ++ used)) tokens result := by
  rw [parseSteps] at read
  split at read
  · next seen =>
    obtain ⟨used, split, body⟩ := sound.property (before ++ [.symbol .dot])
      (fun property => by simpa using Chain.member chain property)
      (fun function us arguments passed => by simpa using Chain.method chain function passed) read
    refine ⟨.symbol .dot :: used, ?_, by simpa using body⟩
    rw [eq_cons_of_sees seen, split]
    rfl
  · split at read
    · next seen =>
      obtain ⟨used, split, body⟩ := sound.property (before ++ [.symbol .optionalDot])
        (fun property => by simpa using Chain.optionalMember chain property)
        (fun function us arguments passed => by
          simpa using Chain.optionalMethod chain function passed) read
      refine ⟨.symbol .optionalDot :: used, ?_, by simpa using body⟩
      rw [eq_cons_of_sees seen, split]
      rfl
    · split at read
      · next seen =>
        rw [bind_eq_ok_iff] at read
        obtain ⟨⟨place, rest⟩, first, read⟩ := read
        obtain ⟨us, split, position⟩ := sound.whole first
        dsimp only at read split position
        rw [bind_eq_ok_iff] at read
        obtain ⟨after, closed, read⟩ := read
        obtain ⟨used, taken, body⟩ := sound.steps (chain.index position) read
        refine ⟨.symbol .openBracket :: us ++ .symbol .closeBracket :: used, ?_,
          by simpa using body⟩
        rw [eq_cons_of_sees seen, split, expect_eq_ok closed, taken]
        simp
      · cases read
        refine ⟨[], rfl, ?_⟩
        dsimp only
        rw [List.append_nil]
        cases optional with
        | false => exact .strict chain
        | true => exact .optional chain

theorem property_of_parse (before : List Token) {optional : Bool} {receiver : Expr}
    {tokens : List Token} {result : Expr × List Token}
    (member : ∀ property,
      Chain (before ++ [.name property]) optional (.member receiver property))
    (method : ∀ function us arguments, Arguments us arguments →
      Chain (before ++ .name function :: us) optional (.call function (receiver :: arguments)))
    (read : parseProperty (fuel + 1) optional receiver tokens = .ok result) :
    ReadFrom (fun used => Unary (before ++ used)) tokens result := by
  rw [parseProperty] at read
  split at read
  · next property next =>
    split at read
    · rw [bind_eq_ok_iff] at read
      obtain ⟨⟨arguments, rest⟩, first, read⟩ := read
      obtain ⟨us, split, passed⟩ := sound.arguments first
      dsimp only at read split passed
      obtain ⟨used, taken, body⟩ := sound.steps (method property us arguments passed) read
      refine ⟨.name property :: us ++ used, ?_, by simpa using body⟩
      rw [eq_cons_of_peek next (by simp), split, taken]
      simp
    · obtain ⟨used, taken, body⟩ := sound.steps (member property) read
      refine ⟨.name property :: used, ?_, by simpa using body⟩
      rw [eq_cons_of_peek next (by simp), taken]
      rfl
  · cases read

theorem arguments_of_parse {tokens : List Token} {result : List Expr × List Token}
    (read : parseArguments (fuel + 1) tokens = .ok result) : ReadFrom Arguments tokens result := by
  rw [parseArguments, bind_eq_ok_iff] at read
  obtain ⟨inner, opened, read⟩ := read
  rw [bind_eq_ok_iff] at read
  obtain ⟨⟨items, rest⟩, first, read⟩ := read
  obtain ⟨used, split, body⟩ := sound.items first
  dsimp only at read split body
  rw [bind_eq_ok_iff] at read
  obtain ⟨after, closed, read⟩ := read
  cases read
  refine ⟨_, ?_, .mk body⟩
  rw [expect_eq_ok opened, split, expect_eq_ok closed]
  simp

theorem items_of_parse {close : Symbol} {tokens : List Token} {result : List Expr × List Token}
    (read : parseItems (fuel + 1) close tokens = .ok result) : ReadFrom Items tokens result := by
  rw [parseItems] at read
  split at read
  · cases read
    exact ⟨[], rfl, .none⟩
  · rw [bind_eq_ok_iff] at read
    obtain ⟨⟨e, rest⟩, first, read⟩ := read
    obtain ⟨ts, split, item⟩ := sound.whole first
    dsimp only at read split item
    split at read
    · next seen =>
      rw [bind_eq_ok_iff] at read
      obtain ⟨⟨items, left⟩, second, read⟩ := read
      obtain ⟨us, taken, more⟩ := sound.items second
      cases read
      refine ⟨_, ?_, .more item more⟩
      rw [split, eq_cons_of_sees seen, taken]
      simp
    · cases read
      exact ⟨ts, split, .last item⟩

theorem value_of_parse (key : String) {tokens : List Token} {result : (String × Expr) × List Token}
    (read : (do
      let tokens ← expect .colon .noKeyColon tokens
      let (value, tokens) ← parseTernary fuel tokens
      return ((key, value), tokens)) = .ok result) :
    ∃ used, tokens = .symbol .colon :: used ++ result.2 ∧ result.1.1 = key ∧
      Whole used result.1.2 := by
  rw [bind_eq_ok_iff] at read
  obtain ⟨inner, colon, read⟩ := read
  rw [bind_eq_ok_iff] at read
  obtain ⟨⟨e, left⟩, first, read⟩ := read
  obtain ⟨used, split, value⟩ := sound.whole first
  cases read
  refine ⟨used, ?_, rfl, value⟩
  rw [expect_eq_ok colon, split]
  rfl

theorem field_of_parse {tokens : List Token} {result : (String × Expr) × List Token}
    (read : parseField (fuel + 1) tokens = .ok result) : ReadFrom Entry tokens result := by
  obtain ⟨⟨key, e⟩, left⟩ := result
  rw [parseField] at read
  split at read
  · next s next =>
    obtain ⟨used, split, rfl, value⟩ := value_of_parse sound s read
    refine ⟨_, ?_, .name key value⟩
    rw [eq_cons_of_peek next (by simp), split]
    rfl
  · next s next =>
    obtain ⟨used, split, rfl, value⟩ := value_of_parse sound s read
    refine ⟨_, ?_, .text key value⟩
    rw [eq_cons_of_peek next (by simp), split]
    rfl
  · cases read

theorem fields_of_parse {tokens : List Token} {result : List (String × Expr) × List Token}
    (read : parseFields (fuel + 1) tokens = .ok result) : ReadFrom Entries tokens result := by
  rw [parseFields] at read
  split at read
  · cases read
    exact ⟨[], rfl, .none⟩
  · rw [bind_eq_ok_iff] at read
    obtain ⟨⟨field, rest⟩, first, read⟩ := read
    obtain ⟨ts, split, entry⟩ := sound.field first
    dsimp only at read split entry
    split at read
    · next seen =>
      rw [bind_eq_ok_iff] at read
      obtain ⟨⟨fields, left⟩, second, read⟩ := read
      obtain ⟨us, taken, more⟩ := sound.fields second
      cases read
      refine ⟨_, ?_, .more entry more⟩
      rw [split, eq_cons_of_sees seen, taken]
      simp
    · cases read
      exact ⟨ts, split, .last entry⟩

theorem primary_of_parse {tokens : List Token} {result : Expr × List Token}
    (read : parsePrimary (fuel + 1) tokens = .ok result) : ReadFrom Primary tokens result := by
  rw [parsePrimary] at read
  split at read
  · next next =>
    cases read
    exact ⟨[.null], eq_cons_of_peek next (by simp), .null⟩
  · next b next =>
    cases read
    exact ⟨[.bool b], eq_cons_of_peek next (by simp), .bool b⟩
  · next x next =>
    cases read
    exact ⟨[.number x], eq_cons_of_peek next (by simp), .number x⟩
  · next s next =>
    cases read
    exact ⟨[.text s], eq_cons_of_peek next (by simp), .text s⟩
  · next s next =>
    split at read
    · rw [bind_eq_ok_iff] at read
      obtain ⟨⟨arguments, rest⟩, first, read⟩ := read
      obtain ⟨us, split, passed⟩ := sound.arguments first
      cases read
      refine ⟨.name s :: us, ?_, .call s passed⟩
      rw [eq_cons_of_peek next (by simp), split]
      rfl
    · cases read
      exact ⟨[.name s], eq_cons_of_peek next (by simp), .name s⟩
  · next next =>
    rw [bind_eq_ok_iff] at read
    obtain ⟨⟨e, rest⟩, first, read⟩ := read
    obtain ⟨ts, split, body⟩ := sound.whole first
    dsimp only at read split body
    rw [bind_eq_ok_iff] at read
    obtain ⟨after, closed, read⟩ := read
    cases read
    refine ⟨_, ?_, .group body⟩
    rw [eq_cons_of_peek next (by simp), split, expect_eq_ok closed]
    simp
  · next next =>
    rw [bind_eq_ok_iff] at read
    obtain ⟨⟨items, rest⟩, first, read⟩ := read
    obtain ⟨ts, split, body⟩ := sound.items first
    dsimp only at read split body
    rw [bind_eq_ok_iff] at read
    obtain ⟨after, closed, read⟩ := read
    cases read
    refine ⟨_, ?_, .array body⟩
    rw [eq_cons_of_peek next (by simp), split, expect_eq_ok closed]
    simp
  · next next =>
    rw [bind_eq_ok_iff] at read
    obtain ⟨⟨fields, rest⟩, first, read⟩ := read
    obtain ⟨ts, split, body⟩ := sound.fields first
    dsimp only at read split body
    rw [bind_eq_ok_iff] at read
    obtain ⟨after, closed, read⟩ := read
    cases read
    refine ⟨_, ?_, .object body⟩
    rw [eq_cons_of_peek next (by simp), split, expect_eq_ok closed]
    simp
  · cases read

end

/-- Every parsing function is sound, whatever its fuel. -/
theorem sound (fuel : Nat) : Sound fuel := by
  induction fuel with
  | zero => exact sound_zero
  | succ fuel ih =>
    exact {
      whole := whole_of_parse ih
      binary := binary_of_parse ih
      operands := operands_of_parse ih
      unary := unary_of_parse ih
      steps := steps_of_parse ih
      property := property_of_parse ih
      primary := primary_of_parse ih
      arguments := arguments_of_parse ih
      items := items_of_parse ih
      fields := fields_of_parse ih
      field := field_of_parse ih }

theorem isEof_iff {t : Token} : isEof t = true ↔ t = .eof := by
  cases t <;> simp [isEof]

theorem parseTokens_eq_ok {tokens : List Token} {e : Expr} (read : parseTokens tokens = .ok e) :
    ∃ used left, parseTernary (fuelFor tokens) tokens = .ok (e, left) ∧ peek left = .eof ∧
      tokens = used ++ left ∧ Whole used e := by
  unfold parseTokens at read
  split at read
  · cases read
  · rw [bind_eq_ok_iff] at read
    obtain ⟨⟨found, left⟩, first, read⟩ := read
    obtain ⟨used, split, derived⟩ := (sound _).whole first
    dsimp only at read split derived
    split at read
    · next closed =>
      cases read
      exact ⟨used, left, first, isEof_iff.mp closed, split, derived⟩
    · cases read

end LiveConfig.Grammar
