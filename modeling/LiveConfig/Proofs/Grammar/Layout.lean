import LiveConfig.Proofs.Grammar.Lexemes

set_option autoImplicit false

namespace LiveConfig.Token

/-- The text `front` is read as whole tokens when `back` follows it: where the one meets the other,
a token has just ended or white space is skipped, and no token reaches across. -/
inductive Reads : List Char → List Token → List Char → Prop where
  | nil (back : List Char) : Reads [] [] back
  | blank {c : Char} {front back : List Char} {tokens : List Token}
      (blank : Text.isBlank c = true) (later : Reads front tokens back) :
      Reads (c :: front) tokens back
  | token {c : Char} {word front back : List Char} {token : Token} {tokens : List Token}
      (found : scan c (word ++ (front ++ back)) = .ok (token, front ++ back))
      (later : Reads front tokens back) : Reads (c :: (word ++ front)) (token :: tokens) back

theorem Reads.blanks {gap front back : List Char} {tokens : List Token}
    (blank : ∀ c ∈ gap, Text.isBlank c = true) (later : Reads front tokens back) :
    Reads (gap ++ front) tokens back := by
  induction gap with
  | nil => exact later
  | cons c gap ih =>
    refine .blank (blank c List.mem_cons_self) (ih fun other member => ?_)
    exact blank other (List.mem_cons_of_mem c member)

theorem Spelled.reads {token : Token} {word front back : List Char} {limit : Limit}
    {tokens : List Token} (spelled : Spelled token word limit) (later : Reads front tokens back)
    (ends : limit.Ends (front ++ back)) : Reads (word ++ front) (token :: tokens) back := by
  obtain ⟨c, word, rfl⟩ := List.exists_cons_of_ne_nil spelled.ne_nil
  exact .token (spelled.scan_eq ends) later

theorem tokensOf_blank {gap : List Char} (blank : ∀ c ∈ gap, Text.isBlank c = true)
    (text : List Char) : tokensOf (gap ++ text) = tokensOf text := by
  induction gap with
  | nil => rfl
  | cons c gap ih =>
    rw [List.cons_append, tokensOf, if_pos (blank c List.mem_cons_self)]
    exact ih fun other member => blank other (List.mem_cons_of_mem c member)

theorem tokensOf_token {c : Char} {rest after : List Char} {token : Token}
    (found : scan c rest = .ok (token, after)) :
    tokensOf (c :: rest) = (tokensOf after).map (token :: ·) := by
  obtain ⟨word, limit, -, spelled, -⟩ := spelled_of_scan found
  rw [tokensOf, if_neg (Bool.eq_false_iff.mp spelled.not_isBlank)]
  split
  · next cause failed =>
    rw [found] at failed
    cases failed
  · next same scanned =>
    rw [found] at scanned
    cases scanned
    rfl

theorem Reads.tokensOf_eq {front back : List Char} {tokens : List Token}
    (reads : Reads front tokens back) :
    tokensOf (front ++ back) = (tokensOf back).map (tokens ++ ·) := by
  induction reads with
  | nil back =>
    rw [List.nil_append]
    cases tokensOf back <;> rfl
  | @blank c front back tokens blank later ih =>
    rw [List.cons_append, tokensOf, if_pos blank, ih]
  | token found later ih =>
    rw [List.cons_append, List.append_assoc, tokensOf_token found, ih]
    cases tokensOf _ <;> rfl

theorem exists_reads {text : List Char} {firsts lasts : List Token}
    (found : tokensOf text = .ok (firsts ++ lasts)) (some : lasts ≠ []) :
    ∃ front back, text = front ++ back ∧ Reads front firsts back ∧ tokensOf back = .ok lasts := by
  fun_induction tokensOf text generalizing firsts with
  | case1 =>
    cases firsts with
    | nil => exact ⟨[], [], rfl, .nil [], by rw [tokensOf, found]; rfl⟩
    | cons first firsts =>
      have none := (List.append_eq_nil_iff.mp (List.cons.inj (Except.ok.inj found)).2.symm).2
      exact absurd none some
  | case2 c rest blank ih =>
    obtain ⟨front, back, split, reads, left⟩ := ih found
    exact ⟨c :: front, back, by rw [split]; rfl, .blank blank reads, left⟩
  | case3 c rest solid cause failed => cases found
  | case4 c rest solid token after scanned ih =>
    cases firsts with
    | nil => exact ⟨[], c :: rest, rfl, .nil _, by rw [tokensOf_token scanned, found]; rfl⟩
    | cons first firsts =>
      cases later : tokensOf after with
      | error refusal =>
        rw [later] at found
        cases found
      | ok more =>
        rw [later] at found
        obtain ⟨rfl, same⟩ := List.cons.inj (Except.ok.inj found)
        obtain ⟨front, back, rfl, reads, left⟩ := ih (later.trans (congrArg Except.ok same))
        obtain ⟨word, limit, rfl, -, -⟩ := spelled_of_scan scanned
        refine ⟨c :: (word ++ front), back, ?_, .token scanned reads, left⟩
        rw [List.cons_append, List.append_assoc]

/-- A word that ends before the first text ends before the second as well. -/
def NoLonger (after after' : List Char) : Prop :=
  ∀ limit : Limit, limit.Ends after → limit.Ends after'

theorem noLonger_of_same {after after' : List Char} (head : after.head? = after'.head?)
    (fraction : startsWithFraction after = startsWithFraction after') : NoLonger after after' := by
  intro limit ends
  cases limit with
  | none => trivial
  | _ =>
    simp only [Limit.Ends, startsWithDigit_eq_false_iff, head, fraction] at ends ⊢
    exact ends

theorem ends_nil (limit : Limit) : limit.Ends [] := by
  cases limit <;> simp [Limit.Ends, startsWithDigit, startsWithFraction]

theorem ends_of_blank {c : Char} (blank : Text.isBlank c = true) (rest : List Char)
    (limit : Limit) : limit.Ends (c :: rest) := by
  have other {d : Char} (solid : Text.isBlank d = false) : (c :: rest).head? ≠ some d := by
    intro head
    cases head
    exact Bool.eq_false_iff.mp solid blank
  have digit : startsWithDigit (c :: rest) = false := not_isDigit_of_isBlank blank
  have fraction : startsWithFraction (c :: rest) = false := by
    refine Bool.eq_false_iff.mpr fun fraction => ?_
    obtain ⟨more, same, -⟩ := startsWithFraction_iff.mp fraction
    exact other (by decide) (congrArg List.head? same)
  cases limit with
  | none => trivial
  | digit => exact digit
  | number => exact ⟨digit, fraction⟩
  | name =>
    intro d head
    cases head
    exact not_isNamePart_of_isBlank blank
  | equals => exact other (by decide)
  | question => exact ⟨other (by decide), fun head => absurd head (other (by decide))⟩

/-- A point alone is a word only before a text that starts with no digit. -/
theorem Spelled.limit_of_point {token : Token} {limit : Limit}
    (spelled : Spelled token ['.'] limit) : limit = .digit := by
  generalize shown : ['.'] = text at spelled
  cases spelled with
  | whole some all =>
    subst shown
    cases all '.' List.mem_cons_self
  | fraction => rfl
  | literal opens inside =>
    obtain ⟨rfl, -⟩ := List.cons.inj shown
    revert opens
    decide
  | word starts parts =>
    obtain ⟨rfl, -⟩ := List.cons.inj shown
    cases starts
  | symbol s => exact ((starts_symbol s shown.symm).2.2.2.2 rfl).1
  | strictEqual => cases shown
  | strictUnequal => cases shown

theorem Spelled.startsWithFraction_eq {token : Token} {c : Char} {word after after' : List Char}
    {limit : Limit} (spelled : Spelled token (c :: word) limit) (ends : limit.Ends after)
    (ends' : limit.Ends after') :
    startsWithFraction (c :: (word ++ after)) = startsWithFraction (c :: (word ++ after')) := by
  cases word with
  | cons d word => rfl
  | nil =>
    by_cases point : c = '.'
    · rw [point] at spelled
      rw [spelled.limit_of_point] at ends ends'
      have none : startsWithDigit after = false := ends
      have none' : startsWithDigit after' = false := ends'
      simp only [startsWithFraction, List.nil_append, none, none']
    · simp only [startsWithFraction, beq_eq_false_iff_ne.mpr point, Bool.false_and]

theorem Reads.noLonger {front back back' : List Char} {tokens : List Token}
    (reads : Reads front tokens back) (free : NoLonger back back') :
    Reads front tokens back' ∧ NoLonger (front ++ back) (front ++ back') := by
  induction reads with
  | nil back => exact ⟨.nil back', free⟩
  | @blank c front back tokens blank later ih =>
    exact ⟨.blank blank (ih free).1, fun limit _ => ends_of_blank blank _ limit⟩
  | @token c word front back token tokens found later ih =>
    obtain ⟨reads, free⟩ := ih free
    obtain ⟨limit, spelled, ends⟩ := scan_eq_ok_iff.mp found
    refine ⟨.token (spelled.scan_eq (free limit ends)) reads, noLonger_of_same rfl ?_⟩
    simp only [List.cons_append, List.append_assoc]
    exact spelled.startsWithFraction_eq ends (free limit ends)

/-- The content of a literal, with a backslash before each of its quotes and backslashes. -/
def escape (quote : Char) (content : List Char) : List Char :=
  content.flatMap fun c => if c = quote ∨ c = '\\' then ['\\', c] else [c]

theorem quoted_escape {quote : Char} (opens : IsQuote quote) (content : List Char) :
    Quoted quote (escape quote content) content := by
  induction content with
  | nil => exact .nil
  | cons c content ih =>
    rw [escape, List.flatMap_cons]
    split
    · next special =>
      have plain : unescape c = c := by
        rcases special with rfl | rfl
        · rcases opens with rfl | rfl <;> rfl
        · rfl
      have escaped := Quoted.escaped c ih
      rw [plain] at escaped
      exact escaped
    · next solid =>
      obtain ⟨other, solid⟩ := not_or.mp solid
      exact .plain solid other ih

/-- Words that no name can be. -/
def keywords : List String :=
  ["null", "undefined", "true", "false"]

/-- How a token is written: names and symbols as they are, a number by its digits, and a literal
between quotes of either kind. -/
inductive Printed : Token → List Char → Prop where
  | null : Printed .null "null".toList
  | undefined : Printed .null "undefined".toList
  | yes : Printed (.bool true) "true".toList
  | no : Printed (.bool false) "false".toList
  | whole {digits : List Char} (some : digits ≠ []) (all : ∀ c ∈ digits, Number.isDigit c = true) :
      Printed (.number (Number.ofDigits digits [] 0)) digits
  | fraction {digits fraction : List Char} (all : ∀ c ∈ digits, Number.isDigit c = true)
      (some : fraction ≠ []) (all' : ∀ c ∈ fraction, Number.isDigit c = true) :
      Printed (.number (Number.ofDigits digits fraction 0)) (digits ++ '.' :: fraction)
  | literal {quote : Char} (opens : IsQuote quote) (content : String) :
      Printed (.text content) (quote :: (escape quote content.toList ++ [quote]))
  | name {c : Char} {rest : List Char} (starts : isNameStart c = true)
      (parts : ∀ d ∈ rest, isNamePart d = true) (other : String.ofList (c :: rest) ∉ keywords) :
      Printed (.name (String.ofList (c :: rest))) (c :: rest)
  | symbol (s : Symbol) : Printed (.symbol s) s.text.toList
  | strictEqual : Printed (.symbol .equal) "===".toList
  | strictUnequal : Printed (.symbol .unequal) "!==".toList

/-- The words of the tokens, with white space between any two of them and perhaps at the end. -/
inductive Spaced : List Token → List Char → Prop where
  | nil {gap : List Char} (blank : ∀ c ∈ gap, Text.isBlank c = true) : Spaced [] gap
  | last {token : Token} {word : List Char} (printed : Printed token word) : Spaced [token] word
  | cons {token : Token} {word gap text : List Char} {tokens : List Token}
      (printed : Printed token word) (some : gap ≠ []) (blank : ∀ c ∈ gap, Text.isBlank c = true)
      (later : Spaced tokens text) : Spaced (token :: tokens) (word ++ gap ++ text)

theorem Spelled.of_word (word : String) {c : Char} {rest : List Char}
    (shown : word.toList = c :: rest) (starts : isNameStart c = true)
    (parts : rest.all isNamePart = true) : Spelled (ofWord word) word.toList .name := by
  obtain rfl : word = String.ofList (c :: rest) := by rw [← shown, String.ofList_toList]
  rw [shown]
  exact .word starts (List.all_eq_true.mp parts)

theorem ofWord_of_not_mem {word : String} (other : word ∉ keywords) : ofWord word = .name word := by
  simp only [keywords, List.mem_cons, List.not_mem_nil, or_false, not_or] at other
  simp [ofWord, other]

theorem Printed.spelled {token : Token} {word : List Char} (printed : Printed token word) :
    ∃ limit, Spelled token word limit := by
  cases printed with
  | null => exact ⟨.name, .of_word "null" rfl (by decide) (by decide)⟩
  | undefined => exact ⟨.name, .of_word "undefined" rfl (by decide) (by decide)⟩
  | yes => exact ⟨.name, .of_word "true" rfl (by decide) (by decide)⟩
  | no => exact ⟨.name, .of_word "false" rfl (by decide) (by decide)⟩
  | whole some all => exact ⟨.number, .whole some all⟩
  | fraction all some all' => exact ⟨.digit, .fraction all some all'⟩
  | literal opens content =>
    have spelled := Spelled.literal opens (quoted_escape opens content.toList)
    rw [String.ofList_toList] at spelled
    exact ⟨.none, spelled⟩
  | name starts parts other =>
    have spelled := Spelled.word starts parts
    rw [ofWord_of_not_mem other] at spelled
    exact ⟨.name, spelled⟩
  | symbol s => exact ⟨limitOf s, .symbol s⟩
  | strictEqual => exact ⟨.none, .strictEqual⟩
  | strictUnequal => exact ⟨.none, .strictUnequal⟩

theorem Spaced.reads {tokens : List Token} {text : List Char} (spaced : Spaced tokens text) :
    Reads text tokens [] := by
  induction spaced with
  | @nil gap blank =>
    have reads := Reads.blanks blank (.nil [])
    rwa [List.append_nil] at reads
  | @last token word printed =>
    obtain ⟨limit, spelled⟩ := printed.spelled
    have reads := spelled.reads (.nil []) (ends_nil limit)
    rwa [List.append_nil] at reads
  | @cons token word gap text tokens printed some blank later ih =>
    obtain ⟨limit, spelled⟩ := printed.spelled
    obtain ⟨c, rest, rfl⟩ := List.exists_cons_of_ne_nil some
    rw [List.append_assoc]
    exact spelled.reads (.blanks blank ih) (ends_of_blank (blank c List.mem_cons_self) _ limit)

/-- Tokens that are written with white space between them are read back. Between any two tokens of a
text there is a place where the first of them has been read and the second has not begun, and white
space at any such place leaves the tokens as they are. -/
theorem lex_inverts_printing_ignoring_layout :
    (∀ (tokens : List Token) (source : String), Spaced tokens source.toList →
      lex source = .ok (tokens ++ [.eof])) ∧
    (∀ (source : String) (firsts lasts : List Token), lex source = .ok (firsts ++ lasts) →
      lasts ≠ [] → ∃ front back : String, source = front ++ back ∧
        Reads front.toList firsts back.toList) ∧
    (∀ (front gap back : String) (firsts tokens : List Token), lex (front ++ back) = .ok tokens →
      Reads front.toList firsts back.toList → (∀ c ∈ gap.toList, Text.isBlank c = true) →
      lex (front ++ gap ++ back) = .ok tokens) := by
  refine ⟨?_, ?_, ?_⟩
  · intro tokens source spaced
    have read := spaced.reads.tokensOf_eq
    rw [List.append_nil, tokensOf] at read
    exact lex_eq_ok_iff.mpr read
  · intro source firsts lasts lexed some
    obtain ⟨front, back, split, reads, -⟩ := exists_reads (lex_eq_ok_iff.mp lexed) some
    refine ⟨String.ofList front, String.ofList back, ?_, ?_⟩
    · rw [← String.ofList_append, ← split, String.ofList_toList]
    · rw [String.toList_ofList, String.toList_ofList]
      exact reads
  · intro front gap back firsts tokens lexed reads blank
    have free : NoLonger back.toList (gap.toList ++ back.toList) := by
      cases shape : gap.toList with
      | nil => exact fun limit ends => ends
      | cons c rest =>
        rw [shape] at blank
        exact fun limit _ => ends_of_blank (blank c List.mem_cons_self) _ limit
    have apart := (reads.noLonger free).1.tokensOf_eq
    rw [tokensOf_blank blank, ← reads.tokensOf_eq] at apart
    rw [lex_eq_ok_iff, String.toList_append] at lexed
    rw [lex_eq_ok_iff, String.toList_append, String.toList_append, List.append_assoc, apart]
    exact lexed

/-- A point after a question mark belongs to the fraction behind it, also when white space parts the
two. -/
theorem lex_question_before_fraction :
    lex "a ?. b ? .5 'it\\'s'" = .ok [.name "a", .symbol .optionalDot, .name "b", .symbol .question,
      .number (Number.ofDigits [] ['5'] 0), .text "it's", .eof] ∧
    (∃ front back : String, "a?.5" = front ++ back ∧
      Reads front.toList [.name "a", .symbol .question] back.toList) ∧
    lex "a? .5" = .ok [.name "a", .symbol .question, .number (Number.ofDigits [] ['5'] 0), .eof] := by
  have fraction : Printed (.number (Number.ofDigits [] ['5'] 0)) ['.', '5'] :=
    .fraction (List.all_eq_true.mp (by decide)) (by decide) (List.all_eq_true.mp (by decide))
  have name {c : Char} (starts : isNameStart c = true) (other : String.ofList [c] ∉ keywords) :
      Printed (.name (String.ofList [c])) [c] :=
    .name starts (List.forall_mem_nil _) other
  have a : Printed (.name "a") ['a'] := name (by decide) (by decide)
  have b : Printed (.name "b") ['b'] := name (by decide) (by decide)
  have spaced : Spaced [.name "a", .symbol .optionalDot, .name "b", .symbol .question,
      .number (Number.ofDigits [] ['5'] 0), .text "it's"] "a ?. b ? .5 'it\\'s'".toList := by
    have some : [' '] ≠ [] := List.cons_ne_nil _ _
    have blank : ∀ c ∈ [' '], Text.isBlank c = true := List.all_eq_true.mp (by decide)
    exact .cons a some blank <| .cons (.symbol .optionalDot) some blank <| .cons b some blank <|
      .cons (.symbol .question) some blank <| .cons fraction some blank <|
      .last (.literal (Or.inl rfl) "it's")
  have number : scan '.' ['5'] = .ok (.number (Number.ofDigits [] ['5'] 0), []) := rfl
  have reads : Reads ['a', '?'] [.name "a", .symbol .question] ['.', '5'] :=
    @Reads.token 'a' [] ['?'] _ _ _ rfl <| @Reads.token '?' [] [] _ _ _ rfl <| .nil _
  have lexed : lex "a?.5" =
      .ok [.name "a", .symbol .question, .number (Number.ofDigits [] ['5'] 0), .eof] := by
    have read := reads.tokensOf_eq
    rw [tokensOf_token number, tokensOf] at read
    exact lex_eq_ok_iff.mpr read
  refine ⟨?_, ?_, ?_⟩
  · exact lex_inverts_printing_ignoring_layout.1 _ _ spaced
  · exact lex_inverts_printing_ignoring_layout.2.1 "a?.5" _ _ lexed (List.cons_ne_nil _ _)
  · exact lex_inverts_printing_ignoring_layout.2.2 "a?" " " ".5" _ _ lexed reads
      (List.all_eq_true.mp (by decide))

end LiveConfig.Token
