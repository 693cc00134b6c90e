import LiveConfig.Proofs.Grammar.Literals
import LiveConfig.Proofs.Rewriting.Draft
import Mathlib

set_option autoImplicit false

namespace LiveConfig.Template

open Token

/-- A closing delimiter stands in the text outside its literals. -/
def Closes (text : List Char) : Prop :=
  ∃ before after contents, text = before ++ '$' :: '>' :: after ∧ Literals before contents

theorem cutClose_cons {scan : Scan} {c : Char} {rest body after : List Char}
    (passes : ¬ (scan = .outside ∧ c = '$' ∧ rest.head? = some '>'))
    (found : cutClose (scan.next c) rest = some (body, after)) :
    cutClose scan (c :: rest) = some (c :: body, after) := by
  rw [cutClose, if_neg passes, found]
  rfl

theorem cutClose_quoted {quote : Char} {raw content rest body after : List Char}
    (inside : Quoted quote raw content) (opens : IsQuote quote)
    (found : cutClose .outside rest = some (body, after)) :
    cutClose (.inside quote) (raw ++ quote :: rest) = some (raw ++ quote :: body, after) := by
  induction inside with
  | nil =>
    apply cutClose_cons (by simp)
    simpa [Scan.next, opens.ne_backslash] using found
  | plain solid other _ ih =>
    apply cutClose_cons (by simp)
    simpa [Scan.next, solid, other] using ih
  | escaped c _ ih =>
    apply cutClose_cons (by simp)
    have next : Scan.next (.inside quote) '\\' = .escaped quote := by simp [Scan.next]
    rw [next]
    exact cutClose_cons (by simp) ih

theorem cutClose_plain {c : Char} {rest body after : List Char} (solid : ¬ IsQuote c)
    (passes : ¬ (c = '$' ∧ rest.head? = some '>'))
    (found : cutClose .outside rest = some (body, after)) :
    cutClose .outside (c :: rest) = some (c :: body, after) := by
  apply cutClose_cons (fun closing => passes closing.2)
  have stays : Scan.next .outside c = .outside := if_neg solid
  rw [stays]
  exact found

theorem cutClose_literal {quote : Char} {raw content rest body after : List Char}
    (opens : IsQuote quote) (inside : Quoted quote raw content)
    (found : cutClose .outside rest = some (body, after)) :
    cutClose .outside (quote :: (raw ++ quote :: rest)) =
      some (quote :: (raw ++ quote :: body), after) := by
  have quoted := cutClose_quoted inside opens found
  apply cutClose_cons
  · rintro ⟨_, rfl, _⟩
    rcases opens with single | double
    · cases single
    · cases double
  · have enters : Scan.next .outside quote = .inside quote := if_pos opens
    rw [enters]
    exact quoted

/-- A text without a closing delimiter of its own is cut off right at the delimiter after it. -/
theorem cutClose_of_literals {text : List Char} {contents : List String}
    (whole : Literals text contents) (unclosed : ¬ Closes text) (after : List Char) :
    cutClose .outside (text ++ '$' :: '>' :: after) = some (text, after) := by
  induction whole with
  | nil => rfl
  | @plain c rest contents solid _ ih =>
    have later : ¬ Closes rest := by
      rintro ⟨before, more, contents, split, literals⟩
      exact unclosed ⟨c :: before, more, contents, by rw [split]; rfl, .plain solid literals⟩
    apply cutClose_plain solid _ (ih later)
    rintro ⟨rfl, next⟩
    cases rest with
    | nil => cases next
    | cons d rest =>
      obtain rfl : d = '>' := Option.some.inj next
      exact unclosed ⟨[], rest, [], rfl, .nil⟩
  | @quoted quote raw content rest contents opens inside _ ih =>
    have later : ¬ Closes rest := by
      rintro ⟨before, more, contents, split, literals⟩
      refine unclosed ⟨quote :: (raw ++ quote :: before), more, _, ?_,
        .quoted opens inside literals⟩
      rw [split]
      simp
    have found := cutClose_literal opens inside (ih later)
    simpa using found

/-- No cut goes past a closing delimiter that stands outside the literals. -/
theorem cutClose_of_closes {before : List Char} {contents : List String}
    (whole : Literals before contents) (rest : List Char) :
    ∃ body after, cutClose .outside (before ++ '$' :: '>' :: rest) = some (body, after) ∧
      body.length ≤ before.length := by
  induction whole with
  | nil => exact ⟨[], rest, rfl, Nat.le_refl 0⟩
  | @plain c front contents solid _ ih =>
    obtain ⟨body, after, found, short⟩ := ih
    by_cases closing : c = '$' ∧ (front ++ '$' :: '>' :: rest).head? = some '>'
    · exact ⟨[], _, by rw [List.cons_append, cutClose, if_pos ⟨rfl, closing⟩], Nat.zero_le _⟩
    · exact ⟨c :: body, after, cutClose_plain solid closing found, Nat.succ_le_succ short⟩
  | @quoted quote raw content front contents opens inside _ ih =>
    obtain ⟨body, after, found, short⟩ := ih
    refine ⟨quote :: (raw ++ quote :: body), after, ?_, ?_⟩
    · simpa using cutClose_literal opens inside found
    · simp only [List.length_cons, List.length_append]
      omega

theorem eq_cons_of_cutClose {scan : Scan} {c : Char} {rest body after : List Char}
    (found : cutClose scan (c :: rest) = some (body, after)) :
    (scan = .outside ∧ body = []) ∨
      ∃ front, body = c :: front ∧ cutClose (scan.next c) rest = some (front, after) := by
  unfold cutClose at found
  split at found
  · next closing =>
    cases found
    exact Or.inl ⟨closing.1, rfl⟩
  · obtain ⟨⟨front, back⟩, inner, same⟩ := Option.map_eq_some_iff.mp found
    cases same
    exact Or.inr ⟨front, rfl, inner⟩

theorem not_closes_of_cutClose_eq_none {text : List Char} (none : cutClose .outside text = none) :
    ¬ Closes text := by
  rintro ⟨before, after, contents, split, whole⟩
  obtain ⟨body, rest, found, _⟩ := cutClose_of_closes whole after
  rw [← split, none] at found
  cases found

theorem quoted_of_cutClose {quote : Char} (opens : IsQuote quote) : ∀ {text body after : List Char},
    cutClose (.inside quote) text = some (body, after) →
    ∃ raw content rest more, text = raw ++ quote :: rest ∧ body = raw ++ quote :: more ∧
      Quoted quote raw content ∧ cutClose .outside rest = some (more, after)
  | [], body, after, found => by cases found
  | c :: rest, body, after, found => by
    rcases eq_cons_of_cutClose found with ⟨inside, _⟩ | ⟨front, cut, next⟩
    · cases inside
    · by_cases closes : c = quote
      · have leaves : Scan.next (.inside quote) c = .outside := by
          simp [Scan.next, closes, opens.ne_backslash]
        rw [leaves] at next
        exact ⟨[], [], rest, front, by rw [closes]; rfl, by rw [cut, closes]; rfl, .nil, next⟩
      · by_cases backslash : c = '\\'
        · rw [backslash] at next
          cases rest with
          | nil => cases next
          | cons d rest =>
            rcases eq_cons_of_cutClose next with ⟨escaped, _⟩ | ⟨later, cut', next⟩
            · simp [Scan.next] at escaped
            · have stays : (Scan.next (.inside quote) '\\').next d = .inside quote := by
                simp [Scan.next]
              rw [stays] at next
              obtain ⟨raw, content, more, last, split, ending, inside, final⟩ :=
                quoted_of_cutClose opens next
              refine ⟨'\\' :: d :: raw, _, more, last, ?_, ?_, .escaped d inside, final⟩
              · rw [split, backslash]
                rfl
              · rw [cut, cut', ending, backslash]
                rfl
        · have stays : Scan.next (.inside quote) c = .inside quote := by
            simp [Scan.next, backslash, closes]
          rw [stays] at next
          obtain ⟨raw, content, more, last, split, ending, inside, final⟩ :=
            quoted_of_cutClose opens next
          refine ⟨c :: raw, _, more, last, ?_, ?_, .plain backslash closes inside, final⟩
          · rw [split]
            rfl
          · rw [cut, ending]
            rfl

/-- What is cut out consists of whole literals and characters that are no quotes. -/
theorem literals_of_cutClose : ∀ {text body after : List Char},
    cutClose .outside text = some (body, after) → ∃ contents, Literals body contents
  | [], body, after, found => by cases found
  | c :: rest, body, after, found => by
    rcases eq_cons_of_cutClose found with ⟨_, cut⟩ | ⟨front, cut, next⟩
    · rw [cut]
      exact ⟨[], .nil⟩
    · by_cases opens : IsQuote c
      · have enters : Scan.next .outside c = .inside c := if_pos opens
        rw [enters] at next
        obtain ⟨raw, content, more, last, split, ending, inside, final⟩ :=
          quoted_of_cutClose opens next
        have shorter : more.length < (c :: rest).length := by
          rw [split]
          simp only [List.length_cons, List.length_append]
          omega
        obtain ⟨contents, literals⟩ := literals_of_cutClose final
        rw [cut, ending]
        exact ⟨_, .quoted opens inside literals⟩
      · have stays : Scan.next .outside c = .outside := if_neg opens
        rw [stays] at next
        obtain ⟨contents, literals⟩ := literals_of_cutClose next
        rw [cut]
        exact ⟨contents, .plain opens literals⟩
  termination_by text => text.length

theorem not_closes_of_cutClose {text body after : List Char}
    (found : cutClose .outside text = some (body, after)) : ¬ Closes body := by
  rintro ⟨before, more, contents, split, whole⟩
  obtain ⟨early, rest, first, short⟩ := cutClose_of_closes whole (more ++ '$' :: '>' :: after)
  have same : before ++ '$' :: '>' :: (more ++ '$' :: '>' :: after) = text := by
    rw [eq_of_cutClose found, split]
    simp
  rw [same, found] at first
  cases first
  rw [split] at short
  simp only [List.length_append, List.length_cons] at short
  omega

theorem literals_trim {text : List Char} {contents : List String} (whole : Literals text contents) :
    Literals (Text.trim text) contents := by
  obtain ⟨before, after, split, leading, trailing⟩ := Text.trim_append text
  rw [split] at whole
  have middle := whole.of_append fun c member => not_isQuote_of_isBlank (trailing c member)
  exact (Literals.append_iff fun c member => not_isQuote_of_isBlank (leading c member)).mp middle

theorem closes_of_trim {text : List Char} (closes : Closes (Text.trim text)) : Closes text := by
  obtain ⟨front, back, contents, inner, whole⟩ := closes
  obtain ⟨before, after, split, leading, trailing⟩ := Text.trim_append text
  refine ⟨before ++ front, back ++ after, contents, ?_, ?_⟩
  · rw [split, inner]
    simp
  · exact (Literals.append_iff fun c member => not_isQuote_of_isBlank (leading c member)).mpr whole

theorem expr_notMem_textSegment (text : List Char) (source : String) :
    Segment.expr source ∉ textSegment text := by
  unfold textSegment
  split <;> simp

theorem cut_of_mem_splitChars {text : List Char} {source : String}
    (member : Segment.expr source ∈ splitChars text) :
    ∃ body rest after, cutClose .outside rest = some (body, after) ∧
      source = String.ofList (Text.trim body) := by
  fun_induction splitChars text with
  | case1 text none => exact absurd member (expr_notMem_textSegment text source)
  | case2 text before body opened none => exact absurd member (expr_notMem_textSegment text source)
  | case3 text before body opened cut after closed ih =>
    rcases List.mem_append.mp member with front | back
    · exact absurd front (expr_notMem_textSegment before source)
    · rcases List.mem_cons.mp back with here | later
      · exact ⟨cut, body, after, closed, Segment.expr.inj here⟩
      · exact ih later

theorem cutOpen_append {text : List Char} (free : ¬ ['<', '$'] <:+: text) (body : List Char) :
    cutOpen (text ++ '<' :: '$' :: body) = some (text, body) := by
  induction text with
  | nil => rfl
  | cons c rest ih =>
    have later : ¬ ['<', '$'] <:+: rest := fun inside => free (List.infix_cons inside)
    have passes : ∀ more, c = '<' → rest ++ '<' :: '$' :: body = '$' :: more → False := by
      rintro more rfl starts
      cases rest with
      | nil => cases starts
      | cons d rest =>
        obtain rfl : d = '$' := (List.cons.inj starts).1
        exact free ⟨[], rest, rfl⟩
    rw [List.cons_append, cutOpen.eq_3 _ _ passes, ih later]
    rfl

/-- The scan for delimiters and the tokens of expressions agree on where literals end: a text with
tokens that has no closing delimiter outside its literals is found again whatever stands around it,
and every expression that is found is such a text, tokens apart. -/
theorem split_agrees_with_lex :
    (∀ (text source after : String) (tokens : List Token), lex source = .ok tokens →
      Literals source.toList (tokens.filterMap text?) ∧
      (¬ Closes source.toList → ¬ ['<', '$'] <:+: text.toList →
        cutClose .outside (source ++ "$>" ++ after).toList = some (source.toList, after.toList) ∧
        split (text ++ "<$" ++ source ++ "$>" ++ after) =
          textSegment text.toList ++
            .expr (String.ofList (Text.trim source.toList)) :: split after ∧
        classify ("<$" ++ source ++ "$>") =
          .whole (String.ofList (Text.trim source.toList)))) ∧
    ∀ (template source : String), .expr source ∈ split template →
      (∀ error, lex source = .error error → error.cause ≠ .unterminatedText) ∧
      ¬ Closes source.toList := by
  constructor
  · intro text source after tokens lexed
    have whole := literals_of_lex lexed
    refine ⟨whole, ?_⟩
    intro unclosed free
    have closed (after : String) :
        cutClose .outside (source ++ "$>" ++ after).toList =
          some (source.toList, after.toList) := by
      have cut := cutClose_of_literals whole unclosed after.toList
      simpa using cut
    refine ⟨closed after, ?_, ?_⟩
    · have opened : cutOpen (text ++ "<$" ++ source ++ "$>" ++ after).toList =
          some (text.toList, (source ++ "$>" ++ after).toList) := by
        have found := cutOpen_append free (source ++ "$>" ++ after).toList
        simpa using found
      exact splitChars_of_cut opened (closed after)
    · have opened : cutOpen ("<$" ++ source ++ "$>").toList =
          some ([], (source ++ "$>").toList) := by
        simp [cutOpen]
      have ending : cutClose .outside (source ++ "$>").toList = some (source.toList, []) := by
        have cut := closed ""
        simpa using cut
      apply classify_eq_whole _ opened ending
      simp [escapeMark, List.isPrefixOf]
  · intro template source member
    -- Blanks were trimmed from what was cut out; they belong to no literal.
    obtain ⟨body, rest, after, cut, rfl⟩ := cut_of_mem_splitChars member
    constructor
    · intro error refused
      obtain ⟨contents, whole⟩ := literals_of_cutClose cut
      have trimmed : Literals (String.ofList (Text.trim body)).toList contents := by
        rw [String.toList_ofList]
        exact literals_trim whole
      exact trimmed.lex_cause_ne refused
    · rw [String.toList_ofList]
      intro closes
      exact not_closes_of_cutClose cut (closes_of_trim closes)

theorem lex_quoted :
    lex "names['it\\'s $>']" = .ok
      [.name "names", .symbol .openBracket, .text "it's $>", .symbol .closeBracket, .eof] := by
  cbv

/-- The closing delimiter within the literal, behind an escaped quote, closes nothing. -/
theorem split_quoted :
    (¬ Closes "names['it\\'s $>']".toList ∧ ¬ ['<', '$'] <:+: "it is ".toList) ∧
    split ("it is " ++ "<$" ++ "names['it\\'s $>']" ++ "$>" ++ " today") =
      [.text "it is ", .expr "names['it\\'s $>']", .text " today"] := by
  have unclosed : ¬ Closes "names['it\\'s $>']".toList := by
    apply not_closes_of_cutClose_eq_none
    cbv
  have free : ¬ ['<', '$'] <:+: "it is ".toList := by decide
  obtain ⟨_, found⟩ := split_agrees_with_lex.1 "it is " _ " today" _ lex_quoted
  obtain ⟨_, parts, _⟩ := found unclosed free
  refine ⟨⟨unclosed, free⟩, parts.trans ?_⟩
  cbv

end LiveConfig.Template
