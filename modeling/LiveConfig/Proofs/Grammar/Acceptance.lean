import LiveConfig.Proofs.Grammar.Completeness
import LiveConfig.Proofs.Grammar.Fuel

set_option autoImplicit false

namespace LiveConfig.Grammar

open LiveConfig.Expr

mutual

theorem eof_notMem_of_whole {ts : List Token} {e : Expr} : Whole ts e → .eof ∉ ts
  | .plain body => eof_notMem_of_binary body
  | .choice condition yes no => by
    simp [eof_notMem_of_binary condition, eof_notMem_of_whole yes, eof_notMem_of_whole no]

theorem eof_notMem_of_binary {level : Nat} {ts : List Token} {e : Expr} :
    Binary level ts e → .eof ∉ ts
  | .operator _ _ left right => by
    simp [eof_notMem_of_binary left, eof_notMem_of_binary right]
  | .tighter _ body => eof_notMem_of_binary body
  | .operand body => eof_notMem_of_unary body

theorem eof_notMem_of_unary {ts : List Token} {e : Expr} : Unary ts e → .eof ∉ ts
  | .operator _ operand => by simp [eof_notMem_of_unary operand]
  | .strict steps => eof_notMem_of_chain steps
  | .optional steps => eof_notMem_of_chain steps

theorem eof_notMem_of_chain {ts : List Token} {optional : Bool} {e : Expr} :
    Chain ts optional e → .eof ∉ ts
  | .primary head => eof_notMem_of_primary head
  | .member receiver _ | .optionalMember receiver _ => by simp [eof_notMem_of_chain receiver]
  | .method receiver _ passed | .optionalMethod receiver _ passed => by
    simp [eof_notMem_of_chain receiver, eof_notMem_of_arguments passed]
  | .index receiver position => by
    simp [eof_notMem_of_chain receiver, eof_notMem_of_whole position]

theorem eof_notMem_of_primary {ts : List Token} {e : Expr} : Primary ts e → .eof ∉ ts
  | .null | .bool _ | .number _ | .text _ | .name _ => by simp
  | .call _ passed => by simp [eof_notMem_of_arguments passed]
  | .group body => by simp [eof_notMem_of_whole body]
  | .array body => by simp [eof_notMem_of_items body]
  | .object body => by simp [eof_notMem_of_entries body]

theorem eof_notMem_of_arguments {ts : List Token} {items : List Expr} :
    Arguments ts items → .eof ∉ ts
  | .mk body => by simp [eof_notMem_of_items body]

theorem eof_notMem_of_items {ts : List Token} {items : List Expr} : Items ts items → .eof ∉ ts
  | .none => by simp
  | .last item => eof_notMem_of_whole item
  | .more item others => by simp [eof_notMem_of_whole item, eof_notMem_of_items others]

theorem eof_notMem_of_entries {ts : List Token} {fields : List (String × Expr)} :
    Entries ts fields → .eof ∉ ts
  | .none => by simp
  | .last entry => eof_notMem_of_entry entry
  | .more entry others => by simp [eof_notMem_of_entry entry, eof_notMem_of_entries others]

theorem eof_notMem_of_entry {ts : List Token} {field : String × Expr} :
    Entry ts field → .eof ∉ ts
  | .name _ value | .text _ value => by simp [eof_notMem_of_whole value]

end

theorem eq_of_append_eof {tokens used left : List Token} (real : .eof ∉ tokens)
    (taken : .eof ∉ used) (closed : peek left = .eof) (split : tokens ++ [.eof] = used ++ left) :
    tokens = used ∧ left = [.eof] := by
  obtain ⟨middle, rfl, rest⟩ | ⟨middle, rfl, rest⟩ := List.append_eq_append_iff.mp split
  · cases middle with
    | nil => exact ⟨(List.append_nil tokens).symm, rest.symm⟩
    | cons t more =>
      obtain ⟨rfl, _⟩ := List.cons.inj rest
      simp at taken
  · cases middle with
    | nil => exact ⟨List.append_nil used, rest⟩
    | cons t more =>
      rw [rest, List.cons_append, peek_cons] at closed
      rw [closed] at real
      simp at real

/-- What the parser reads of a list up to the end of the tokens, it reads to the last token. -/
theorem parseTernary_of_parseTokens {tokens : List Token} {e : Expr} (real : .eof ∉ tokens)
    (read : parseTokens (tokens ++ [.eof]) = .ok e) :
    Whole tokens e ∧
      parseTernary (fuelFor (tokens ++ [.eof])) (tokens ++ [.eof]) = .ok (e, [.eof]) := by
  obtain ⟨used, left, first, closed, split, derived⟩ := parseTokens_eq_ok read
  obtain ⟨rfl, rfl⟩ := eq_of_append_eof real (eof_notMem_of_whole derived) closed split
  exact ⟨derived, first⟩

theorem parseTokens_of_whole {tokens : List Token} {e : Expr} (derived : Whole tokens e) :
    parseTokens (tokens ++ [.eof]) = .ok e := by
  have read := readsWhole derived (fuelFor (tokens ++ [.eof])) [.eof]
    (by simp only [fuelFor, List.length_append, List.length_cons]; omega) (ends_eof 1 [])
  have begins : isEof (peek (tokens ++ [.eof])) = false := by
    obtain ⟨t, more, rfl, head⟩ := whole_head derived
    cases t with
    | eof => cases head
    | _ => rfl
  unfold parseTokens
  rw [begins, read]
  rfl

/-- The parser gives a tree exactly when the grammar writes the tokens for it. So the tokens are
written for one tree at most, all of them are read, and what is written for none is refused. -/
theorem parseTokens_eq_ok_iff_whole (tokens : List Token) (real : .eof ∉ tokens) :
    (∀ e, parseTokens (tokens ++ [.eof]) = .ok e ↔ Whole tokens e) ∧
    (∀ e e', Whole tokens e → Whole tokens e' → e = e') ∧
    (∀ e, parseTokens (tokens ++ [.eof]) = .ok e →
      parseTernary (fuelFor (tokens ++ [.eof])) (tokens ++ [.eof]) = .ok (e, [.eof])) ∧
    ((∀ e, ¬ Whole tokens e) → ∃ refusal,
      parseTokens (tokens ++ [.eof]) = .error refusal ∧ refusal.cause ≠ .outOfFuel) := by
  refine ⟨fun e => ⟨fun read => (parseTernary_of_parseTokens real read).1, parseTokens_of_whole⟩,
    fun e e' derived derived' => ?_, fun e read => (parseTernary_of_parseTokens real read).2,
    fun none => ?_⟩
  · have read := parseTokens_of_whole derived
    rw [parseTokens_of_whole derived'] at read
    exact (Except.ok.inj read).symm
  · cases read : parseTokens (tokens ++ [.eof]) with
    | ok e => exact absurd (parseTernary_of_parseTokens real read).1 (none e)
    | error refusal => exact ⟨refusal, rfl, fuelled_parseTokens _ refusal read⟩

/-- `a?.b[i] ?? !c` is one tree, and `a.` is none. -/
theorem whole_of_optional_choice :
    Whole [.name "a", .symbol .optionalDot, .name "b", .symbol .openBracket, .name "i",
        .symbol .closeBracket, .symbol .nullish, .symbol .not, .name "c"]
      (.binary (.logical .nullish)
        (.chain (.index (.member (.guard (.name "a")) "b") (.name "i")))
        (.unary .not (.name "c"))) ∧
    ∀ e, ¬ Whole [.name "a", .symbol .dot] e := by
  constructor
  · exact ((parseTokens_eq_ok_iff_whole _ (by simp)).1 _).mp rfl
  · intro e derived
    have read := ((parseTokens_eq_ok_iff_whole _ (by simp)).1 e).mpr derived
    cases read

end LiveConfig.Grammar
