import LiveConfig.Proofs.Grammar.Lexemes

set_option autoImplicit false

namespace LiveConfig.Token

/-- A text of whole literals and characters that are no quotes, with the contents of its literals in
order. -/
inductive Literals : List Char → List String → Prop where
  | nil : Literals [] []
  | plain {c : Char} {rest : List Char} {contents : List String} (solid : ¬ IsQuote c)
      (after : Literals rest contents) : Literals (c :: rest) contents
  | quoted {quote : Char} {raw content rest : List Char} {contents : List String}
      (opens : IsQuote quote) (inside : Quoted quote raw content)
      (after : Literals rest contents) :
      Literals (quote :: (raw ++ quote :: rest)) (String.ofList content :: contents)

namespace Literals

theorem of_solid {c : Char} {text : List Char} {contents : List String} (solid : ¬ IsQuote c)
    (whole : Literals (c :: text) contents) : Literals text contents := by
  cases whole with
  | plain _ after => exact after
  | quoted opens => exact absurd opens solid

theorem append_iff {used rest : List Char} {contents : List String}
    (solid : ∀ c ∈ used, ¬ IsQuote c) :
    Literals (used ++ rest) contents ↔ Literals rest contents := by
  induction used with
  | nil => exact Iff.rfl
  | cons c used ih =>
    have first := solid c List.mem_cons_self
    have later := ih fun other member => solid other (List.mem_cons_of_mem _ member)
    rw [List.cons_append, ← later]
    exact ⟨of_solid first, .plain first⟩

theorem of_append {text after : List Char} {contents : List String}
    (whole : Literals (text ++ after) contents) (solid : ∀ c ∈ after, ¬ IsQuote c) :
    Literals text contents := by
  have ending {contents : List String} (alone : Literals after contents) :
      Literals [] contents := by
    rw [← List.append_nil after] at alone
    exact (append_iff solid).mp alone
  generalize joined : text ++ after = all at whole
  induction whole generalizing text with
  | nil =>
    rw [(List.append_eq_nil_iff.mp joined).1]
    exact .nil
  | plain first later ih =>
    cases text with
    | nil =>
      rw [List.nil_append] at joined
      exact ending (joined ▸ later.plain first)
    | cons d text =>
      obtain ⟨rfl, same⟩ := List.cons.inj joined
      exact .plain first (ih same)
  | @quoted quote raw content rest contents opens inside later ih =>
    cases text with
    | nil =>
      rw [List.nil_append] at joined
      have member : quote ∈ after := joined ▸ List.mem_cons_self
      exact absurd opens (solid quote member)
    | cons d text =>
      obtain ⟨rfl, same⟩ := List.cons.inj joined
      -- The closing quote is none of the characters at the end, so it stands before them.
      rcases List.append_eq_append_iff.mp same with ⟨front, split, tail⟩ | ⟨back, split, tail⟩
      · have member : d ∈ after := tail ▸ List.mem_append_right front List.mem_cons_self
        exact absurd opens (solid d member)
      · cases back with
        | nil =>
          have member : d ∈ after := by
            rw [List.nil_append] at tail
            exact tail ▸ List.mem_cons_self
          exact absurd opens (solid d member)
        | cons e back =>
          obtain ⟨rfl, final⟩ := List.cons.inj tail
          rw [split]
          exact .quoted opens inside (ih final.symm)

theorem of_quote {quote : Char} {text : List Char} {contents : List String}
    (opens : IsQuote quote) (whole : Literals (quote :: text) contents) :
    ∃ raw content rest more, text = raw ++ quote :: rest ∧ Quoted quote raw content ∧
      contents = String.ofList content :: more ∧ Literals rest more := by
  cases whole with
  | plain solid _ => exact absurd opens solid
  | quoted _ inside after => exact ⟨_, _, _, _, rfl, inside, rfl, after⟩

end Literals

/-- The content of a literal. -/
def text? : Token → Option String
  | .text s => some s
  | _ => none

theorem text?_ofWord (word : String) : (ofWord word).text? = none := by
  unfold ofWord
  split
  · rfl
  · split
    · rfl
    · split <;> rfl

theorem Spelled.solid_or_literal {token : Token} {word : List Char} {limit : Limit}
    (spelled : Spelled token word limit) :
    (token.text? = none ∧ ∀ c ∈ word, ¬ IsQuote c) ∨
      ∃ quote raw content, IsQuote quote ∧ word = quote :: (raw ++ [quote]) ∧
        Quoted quote raw content ∧ token = .text (String.ofList content) := by
  cases spelled with
  | whole some all => exact Or.inl ⟨rfl, fun c member => not_isQuote_of_isDigit (all c member)⟩
  | @fraction digits fraction all some all' =>
    refine Or.inl ⟨rfl, fun c member => ?_⟩
    rcases List.mem_append.mp member with digit | member
    · exact not_isQuote_of_isDigit (all c digit)
    · rcases List.mem_cons.mp member with rfl | digit
      · decide
      · exact not_isQuote_of_isDigit (all' c digit)
  | literal opens inside => exact Or.inr ⟨_, _, _, opens, rfl, inside, rfl⟩
  | word starts parts =>
    refine Or.inl ⟨text?_ofWord _, fun c member => ?_⟩
    rcases List.mem_cons.mp member with rfl | part
    · exact not_isQuote_of_isNamePart (isNamePart_of_isNameStart starts)
    · exact not_isQuote_of_isNamePart (parts c part)
  | symbol s =>
    refine Or.inl ⟨rfl, ?_⟩
    cases s <;> simp [Symbol.text, IsQuote]
  | strictEqual => exact Or.inl ⟨rfl, by simp [IsQuote]⟩
  | strictUnequal => exact Or.inl ⟨rfl, by simp [IsQuote]⟩

theorem scan_used {c : Char} {rest after : List Char} {token : Token}
    (found : scan c rest = .ok (token, after)) :
    (token.text? = none ∧ ∃ used, c :: rest = used ++ after ∧ ∀ x ∈ used, ¬ IsQuote x) ∨
      (IsQuote c ∧ ∃ raw content, rest = raw ++ c :: after ∧ Quoted c raw content ∧
        token.text? = some (String.ofList content)) := by
  obtain ⟨word, limit, rfl, spelled, -⟩ := spelled_of_scan found
  rcases spelled.solid_or_literal with
    ⟨none, solid⟩ | ⟨quote, raw, content, opens, shape, inside, rfl⟩
  · exact Or.inl ⟨none, c :: word, rfl, solid⟩
  · obtain ⟨rfl, rfl⟩ := List.cons.inj shape
    exact Or.inr ⟨opens, raw, content, List.append_assoc raw [c] after, inside, rfl⟩

theorem scanSymbol_ne_unterminated (c : Char) (rest : List Char) :
    scanSymbol c rest ≠ .error .unterminatedText := by
  intro refused
  unfold scanSymbol at refused
  split at refused
  all_goals first
    | cases refused
    | split at refused <;> cases refused

theorem scanText_of_unterminated {c : Char} {rest : List Char}
    (refused : scan c rest = .error .unterminatedText) :
    IsQuote c ∧ scanText c rest = none := by
  unfold scan at refused
  split at refused
  · cases refused
  · split at refused
    · next opens =>
      cases scanned : scanText c rest with
      | none => exact ⟨opens, rfl⟩
      | some pair =>
        rw [scanned] at refused
        cases refused
    · split at refused
      · cases refused
      · cases scanned : scanSymbol c rest with
        | ok pair =>
          rw [scanned] at refused
          cases refused
        | error cause =>
          rw [scanned] at refused
          cases refused
          exact absurd scanned (scanSymbol_ne_unterminated c rest)

/-- The literals of a text are those that its tokens hold. -/
theorem literals_of_tokensOf {text : List Char} {tokens : List Token}
    (found : tokensOf text = .ok tokens) : Literals text (tokens.filterMap text?) := by
  fun_induction tokensOf text generalizing tokens with
  | case1 =>
    cases found
    exact .nil
  | case2 c rest blank ih => exact .plain (not_isQuote_of_isBlank blank) (ih found)
  | case3 c rest solid cause failed => cases found
  | case4 c rest solid token after scanned ih =>
    cases later : tokensOf after with
    | error refusal =>
      rw [later] at found
      cases found
    | ok more =>
      rw [later] at found
      cases found
      have whole := ih later
      rcases scan_used scanned with ⟨none, used, split, others⟩ |
        ⟨opens, raw, content, split, inside, some⟩
      · rw [List.filterMap_cons_none none, split]
        exact (Literals.append_iff others).mpr whole
      · rw [List.filterMap_cons_some some, split]
        exact .quoted opens inside whole

theorem Literals.cause_ne {text left : List Char} {contents : List String} {cause : LexCause}
    (whole : Literals text contents) (refused : tokensOf text = .error (cause, left)) :
    cause ≠ .unterminatedText := by
  fun_induction tokensOf text generalizing contents with
  | case1 => cases refused
  | case2 c rest blank ih => exact ih (whole.of_solid (not_isQuote_of_isBlank blank)) refused
  | case3 c rest solid cause failed =>
    cases refused
    intro unterminated
    rw [unterminated] at failed
    obtain ⟨opens, unended⟩ := scanText_of_unterminated failed
    obtain ⟨raw, content, more, _, split, inside, _⟩ := of_quote opens whole
    rw [split, inside.scanText_eq opens more] at unended
    cases unended
  | case4 c rest solid token after scanned ih =>
    cases later : tokensOf after with
    | ok more =>
      rw [later] at refused
      cases refused
    | error refusal =>
      rw [later] at refused
      cases refused
      rcases scan_used scanned with ⟨_, used, split, others⟩ |
        ⟨opens, raw, content, split, inside, _⟩
      · rw [split] at whole
        exact ih ((append_iff others).mp whole) later
      · obtain ⟨raw', content', rest', more, split', inside', _, final⟩ := of_quote opens whole
        have here := inside.scanText_eq opens after
        rw [← split, split', inside'.scanText_eq opens rest'] at here
        cases here
        exact ih final later

theorem literals_of_lex {source : String} {tokens : List Token}
    (lexed : lex source = .ok tokens) : Literals source.toList (tokens.filterMap text?) :=
  literals_of_tokensOf (lex_eq_ok_iff.mp lexed)

theorem Literals.lex_cause_ne {source : String} {contents : List String} {error : LexError}
    (whole : Literals source.toList contents) (refused : lex source = .error error) :
    error.cause ≠ .unterminatedText := by
  cases found : tokensOf source.toList with
  | ok tokens =>
    rw [lex, found] at refused
    cases refused
  | error refusal =>
    rw [lex, found] at refused
    cases refused
    exact whole.cause_ne found

end LiveConfig.Token
