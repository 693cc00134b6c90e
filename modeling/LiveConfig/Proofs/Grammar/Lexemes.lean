import Mathlib
import LiveConfig.Expr.Token.Lexer

set_option autoImplicit false

/- The words of a text. A token takes the longest word it can, so whether a word is read as a token
depends on the text after it: a number goes on with a digit, a question mark with another one.
Here the words of all tokens are listed without any scan, each with what it must not be followed
by, and a scan takes exactly such a word. -/

namespace LiveConfig

namespace Text

theorem Ranges.contains_eq_false {these those : Ranges} {c : Char}
    (apart : ∀ x ∈ these, ∀ y ∈ those, x.2 < y.1 ∨ y.2 < x.1) (member : these.contains c = true) :
    those.contains c = false := by
  obtain ⟨x, listed, low, high⟩ := (contains_iff these c).mp member
  refine Bool.eq_false_iff.mpr fun other => ?_
  obtain ⟨y, listed', low', high'⟩ := (contains_iff those c).mp other
  rcases apart x listed y listed' with before | behind <;> omega

theorem not_isAlphanumeric_of_isBlank {c : Char} (blank : isBlank c = true) :
    isAlphanumeric c = false := by
  unfold isAlphanumeric
  split
  · have outside : Ranges.contains [(48, 57), (65, 90), (97, 122)] c = false :=
      Ranges.contains_eq_false (by decide) blank
    refine Bool.eq_false_iff.mpr fun ascii => Bool.eq_false_iff.mp outside ?_
    rw [Ranges.contains_iff]
    simp only [Char.isAlphanum, Char.isAlpha, Char.isUpper, Char.isLower, Char.isDigit,
      Bool.or_eq_true, Bool.and_eq_true, decide_eq_true_eq, ge_iff_le,
      UInt32.le_iff_toNat_le] at ascii
    rcases ascii with (upper | lower) | digit
    · exact ⟨(65, 90), by decide, upper⟩
    · exact ⟨(97, 122), by decide, lower⟩
    · exact ⟨(48, 57), by decide, digit⟩
  · exact Ranges.contains_eq_false (by decide +kernel) blank

end Text

namespace Token

/-- A character that opens a literal, and ends it again. -/
def IsQuote (c : Char) : Prop :=
  c = '\'' ∨ c = '"'

instance (c : Char) : Decidable (IsQuote c) :=
  inferInstanceAs (Decidable (c = '\'' ∨ c = '"'))

theorem IsQuote.ne_backslash {c : Char} (opens : IsQuote c) : c ≠ '\\' := by
  rcases opens with single | double
  · rw [single]
    decide
  · rw [double]
    decide

theorem not_isQuote_of_isDigit {c : Char} (digit : Number.isDigit c = true) : ¬ IsQuote c := by
  rintro (rfl | rfl) <;> cases digit

theorem not_isQuote_of_isNamePart {c : Char} (part : isNamePart c = true) : ¬ IsQuote c := by
  rintro (rfl | rfl) <;> revert part <;> decide

theorem not_isQuote_of_isBlank {c : Char} (blank : Text.isBlank c = true) : ¬ IsQuote c := by
  rintro (rfl | rfl) <;> revert blank <;> decide

theorem not_isNamePart_of_isBlank {c : Char} (blank : Text.isBlank c = true) :
    isNamePart c = false := by
  have underscore : c ≠ '_' := by
    rintro rfl
    revert blank
    decide
  have dollar : c ≠ '$' := by
    rintro rfl
    revert blank
    decide
  simp [isNamePart, Text.not_isAlphanumeric_of_isBlank blank, underscore, dollar]

theorem not_isDigit_of_isBlank {c : Char} (blank : Text.isBlank c = true) :
    Number.isDigit c = false := by
  have outside : Text.Ranges.contains [(48, 57)] c = false :=
    Text.Ranges.contains_eq_false (by decide) blank
  refine Bool.eq_false_iff.mpr fun digit => Bool.eq_false_iff.mp outside ?_
  rw [Text.Ranges.contains_iff]
  simp only [Number.isDigit, Bool.and_eq_true, decide_eq_true_eq, Char.le_def,
    UInt32.le_iff_toNat_le] at digit
  exact ⟨(48, 57), by decide, digit⟩

theorem isNamePart_of_isNameStart {c : Char} (starts : isNameStart c = true) :
    isNamePart c = true := by
  simp only [isNameStart, isNamePart, Bool.or_eq_true] at starts ⊢
  refine starts.imp_left (Or.imp_left fun letter => ?_)
  refine Text.isAlphanumeric_of_isAlphanum c ?_ (by simp [Char.isAlphanum, letter])
  simp only [Char.isAlpha, Char.isUpper, Char.isLower, Bool.or_eq_true, Bool.and_eq_true,
    decide_eq_true_eq, ge_iff_le, UInt32.le_iff_toNat_le] at letter
  change c.val.toNat < 128
  rcases letter with ⟨-, upper⟩ | ⟨-, lower⟩
  · exact Nat.lt_of_le_of_lt upper (by decide)
  · exact Nat.lt_of_le_of_lt lower (by decide)

theorem not_isDigit_of_isNameStart {c : Char} (starts : isNameStart c = true) :
    Number.isDigit c = false := by
  refine Bool.eq_false_iff.mpr fun digit => ?_
  simp only [Number.isDigit, Bool.and_eq_true, decide_eq_true_eq, Char.le_def,
    UInt32.le_iff_toNat_le] at digit
  simp only [isNameStart, Char.isAlpha, Char.isUpper, Char.isLower, Bool.or_eq_true,
    Bool.and_eq_true, decide_eq_true_eq, ge_iff_le, UInt32.le_iff_toNat_le, beq_iff_eq] at starts
  rcases starts with ((⟨upper, -⟩ | ⟨lower, -⟩) | rfl) | rfl
  · exact absurd (Nat.le_trans upper digit.2) (by decide)
  · exact absurd (Nat.le_trans lower digit.2) (by decide)
  · exact absurd digit.2 (by decide)
  · exact absurd digit.1 (by decide)

/-- What may stand between two quotes, and what it stands for. A backslash takes the character after
it along, whatever that is. -/
inductive Quoted (quote : Char) : List Char → List Char → Prop where
  | nil : Quoted quote [] []
  | plain {c : Char} {raw content : List Char} (solid : c ≠ '\\') (other : c ≠ quote)
      (rest : Quoted quote raw content) : Quoted quote (c :: raw) (c :: content)
  | escaped (c : Char) {raw content : List Char} (rest : Quoted quote raw content) :
      Quoted quote ('\\' :: c :: raw) (unescape c :: content)

theorem scanText_cons {quote c : Char} {rest : List Char} (solid : c ≠ '\\') :
    scanText quote (c :: rest) =
      if c = quote then some ([], rest)
      else (scanText quote rest).map fun (content, after) => (c :: content, after) :=
  scanText.eq_4 quote c rest fun backslash => solid backslash

theorem Quoted.scanText_eq {quote : Char} {raw content : List Char}
    (inside : Quoted quote raw content) (opens : IsQuote quote) (after : List Char) :
    scanText quote (raw ++ quote :: after) = some (content, after) := by
  induction inside with
  | nil =>
    rw [List.nil_append, scanText_cons opens.ne_backslash, if_pos rfl]
  | plain solid other rest ih =>
    rw [List.cons_append, scanText_cons solid, if_neg other, ih]
    rfl
  | escaped c rest ih =>
    simp only [List.cons_append, scanText, ih, Option.map_some]

theorem quoted_of_scanText {quote : Char} {text content after : List Char}
    (found : scanText quote text = some (content, after)) :
    ∃ raw, text = raw ++ quote :: after ∧ Quoted quote raw content := by
  fun_induction scanText quote text generalizing content after with
  | case1 => cases found
  | case2 => cases found
  | case3 c more ih =>
    obtain ⟨⟨front, back⟩, inner, same⟩ := Option.map_eq_some_iff.mp found
    obtain ⟨raw, split, inside⟩ := ih inner
    cases same
    exact ⟨'\\' :: c :: raw, by rw [split]; rfl, .escaped c inside⟩
  | case4 rest solid =>
    cases found
    exact ⟨[], rfl, .nil⟩
  | case5 c rest solid other ih =>
    obtain ⟨⟨front, back⟩, inner, same⟩ := Option.map_eq_some_iff.mp found
    obtain ⟨raw, split, inside⟩ := ih inner
    cases same
    exact ⟨c :: raw, by rw [split]; rfl, .plain solid other inside⟩

/-- Whether a point and a digit start the text. -/
def startsWithFraction : List Char → Bool
  | c :: rest => c == '.' && startsWithDigit rest
  | [] => false

/-- What a word must not be followed by, for the token to end with it. -/
inductive Limit where
  | none
  /-- a digit -/
  | digit
  /-- a digit, or the fraction of a number -/
  | number
  /-- a character of names -/
  | name
  /-- an equals sign -/
  | equals
  /-- a question mark, or a point that starts no fraction -/
  | question
deriving DecidableEq, Repr

/-- The text does not go on with a word of that limit. -/
def Limit.Ends (after : List Char) : Limit → Prop
  | .none => True
  | .digit => startsWithDigit after = false
  | .number => startsWithDigit after = false ∧ startsWithFraction after = false
  | .name => ∀ c ∈ after.head?, isNamePart c = false
  | .equals => after.head? ≠ some '='
  | .question =>
    after.head? ≠ some '?' ∧ (after.head? = some '.' → startsWithFraction after = true)

/-- Where a symbol ends, when it is written as messages show it. -/
def limitOf : Symbol → Limit
  | .equal | .unequal | .less | .greater | .not => .equals
  | .question => .question
  | .dot | .optionalDot => .digit
  | _ => .none

/-- The ways to write a token, each with the limit of the word. -/
inductive Spelled : Token → List Char → Limit → Prop where
  | whole {digits : List Char} (some : digits ≠ []) (all : ∀ c ∈ digits, Number.isDigit c = true) :
      Spelled (.number (Number.ofDigits digits [] 0)) digits .number
  | fraction {digits fraction : List Char} (all : ∀ c ∈ digits, Number.isDigit c = true)
      (some : fraction ≠ []) (all' : ∀ c ∈ fraction, Number.isDigit c = true) :
      Spelled (.number (Number.ofDigits digits fraction 0)) (digits ++ '.' :: fraction) .digit
  | literal {quote : Char} {raw content : List Char} (opens : IsQuote quote)
      (inside : Quoted quote raw content) :
      Spelled (.text (String.ofList content)) (quote :: (raw ++ [quote])) .none
  | word {c : Char} {rest : List Char} (starts : isNameStart c = true)
      (parts : ∀ d ∈ rest, isNamePart d = true) :
      Spelled (ofWord (String.ofList (c :: rest))) (c :: rest) .name
  | symbol (s : Symbol) : Spelled (.symbol s) s.text.toList (limitOf s)
  | strictEqual : Spelled (.symbol .equal) ['=', '=', '='] .none
  | strictUnequal : Spelled (.symbol .unequal) ['!', '=', '='] .none

theorem Spelled.ne_nil {token : Token} {word : List Char} {limit : Limit}
    (spelled : Spelled token word limit) : word ≠ [] := by
  cases spelled with
  | whole some _ => exact some
  | fraction => exact List.append_ne_nil_of_right_ne_nil _ (List.cons_ne_nil _ _)
  | symbol s => cases s <;> decide
  | _ => exact List.cons_ne_nil _ _

theorem startsWithDigit_eq_false_iff {text : List Char} :
    startsWithDigit text = false ↔ ∀ c ∈ text.head?, Number.isDigit c = false := by
  cases text with
  | nil => simp [startsWithDigit]
  | cons c rest => simp [startsWithDigit]

theorem takeWhile_append_of_ends {p : Char → Bool} {word after : List Char}
    (all : ∀ c ∈ word, p c = true) (ends : ∀ c ∈ after.head?, p c = false) :
    (word ++ after).takeWhile p = word := by
  rw [List.takeWhile_append_of_pos all]
  cases after with
  | nil => exact List.append_nil word
  | cons c rest =>
    rw [List.takeWhile_cons, ends c rfl]
    exact List.append_nil word

theorem dropWhile_append_of_ends {p : Char → Bool} {word after : List Char}
    (all : ∀ c ∈ word, p c = true) (ends : ∀ c ∈ after.head?, p c = false) :
    (word ++ after).dropWhile p = after := by
  rw [List.dropWhile_append_of_pos all]
  cases after with
  | nil => rfl
  | cons c rest => rw [List.dropWhile_cons, ends c rfl]; rfl

theorem ends_dropWhile (p : Char → Bool) (text : List Char) :
    ∀ c ∈ (text.dropWhile p).head?, p c = false := by
  intro c first
  have stop := List.head?_dropWhile_not p text
  rw [Option.mem_def.mp first] at stop
  exact stop

theorem spanDigits_of_ends {digits after : List Char}
    (all : ∀ c ∈ digits, Number.isDigit c = true) (ends : startsWithDigit after = false) :
    Number.spanDigits (digits ++ after) = (digits, after) := by
  have stop := startsWithDigit_eq_false_iff.mp ends
  rw [Number.spanDigits, takeWhile_append_of_ends all stop, dropWhile_append_of_ends all stop]

theorem startsWithFraction_iff {text : List Char} :
    startsWithFraction text = true ↔ ∃ more, text = '.' :: more ∧ startsWithDigit more = true := by
  constructor
  · intro fraction
    cases text with
    | nil => cases fraction
    | cons c rest =>
      obtain ⟨point, digit⟩ := (Bool.and_eq_true _ _).mp fraction
      exact ⟨rest, by rw [eq_of_beq point], digit⟩
  · rintro ⟨more, rfl, digit⟩
    exact digit

theorem scanFraction_of_none {after : List Char} (none : startsWithFraction after = false) :
    scanFraction after = ([], after) := by
  unfold scanFraction
  split
  · next more =>
    refine if_neg fun digit => Bool.eq_false_iff.mp none ?_
    exact startsWithFraction_iff.mpr ⟨more, rfl, digit⟩
  · rfl

theorem startsWithDigit_append {digits : List Char} (some : digits ≠ [])
    (all : ∀ c ∈ digits, Number.isDigit c = true) (after : List Char) :
    startsWithDigit (digits ++ after) = true := by
  obtain ⟨c, rest, rfl⟩ := List.exists_cons_of_ne_nil some
  exact all c List.mem_cons_self

theorem scanNumber_whole {digits after : List Char}
    (all : ∀ c ∈ digits, Number.isDigit c = true) (ends : Limit.number.Ends after) :
    scanNumber (digits ++ after) = (.number (Number.ofDigits digits [] 0), after) := by
  simp only [scanNumber, spanDigits_of_ends all ends.1, scanFraction_of_none ends.2]

theorem scanNumber_fraction {digits fraction after : List Char}
    (all : ∀ c ∈ digits, Number.isDigit c = true) (some : fraction ≠ [])
    (all' : ∀ c ∈ fraction, Number.isDigit c = true) (ends : startsWithDigit after = false) :
    scanNumber (digits ++ '.' :: fraction ++ after) =
      (.number (Number.ofDigits digits fraction 0), after) := by
  have point : startsWithDigit ('.' :: (fraction ++ after)) = false := rfl
  rw [List.append_assoc, List.cons_append]
  simp only [scanNumber, spanDigits_of_ends all point, scanFraction,
    startsWithDigit_append some all' after, if_true, spanDigits_of_ends all' ends]

theorem scanSymbol_text (s : Symbol) {c : Char} {word after : List Char}
    (shown : s.text.toList = c :: word) (ends : (limitOf s).Ends after) :
    scanSymbol c (word ++ after) = .ok (s, after) := by
  have stop {d : Char} (other : after.head? ≠ some d) : ∀ more, after ≠ d :: more := by
    rintro more rfl
    exact other rfl
  cases s
  all_goals cases shown
  case equal =>
    change scanSymbol '=' ('=' :: after) = .ok (.equal, after)
    rw [scanSymbol]
    exact stop ends
  case unequal =>
    change scanSymbol '!' ('=' :: after) = .ok (.unequal, after)
    rw [scanSymbol]
    exact stop ends
  case not =>
    change scanSymbol '!' after = .ok (.not, after)
    rw [scanSymbol]
    · exact fun _ => stop ends _
    · exact stop ends
  case less =>
    change scanSymbol '<' after = .ok (.less, after)
    rw [scanSymbol]
    exact stop ends
  case greater =>
    change scanSymbol '>' after = .ok (.greater, after)
    rw [scanSymbol]
    exact stop ends
  case optionalDot =>
    change scanSymbol '?' ('.' :: after) = .ok (.optionalDot, after)
    rw [scanSymbol]
    exact if_neg (Bool.eq_false_iff.mp ends)
  case question =>
    change scanSymbol '?' after = .ok (.question, after)
    obtain ⟨single, fraction⟩ := ends
    by_cases point : after.head? = some '.'
    · obtain ⟨more, rfl⟩ := List.head?_eq_some_iff.mp point
      rw [scanSymbol]
      exact if_pos (fraction point)
    · rw [scanSymbol]
      · exact stop single
      · exact stop point
  all_goals rfl

theorem scan_of_quote {quote : Char} {rest content after : List Char} (opens : IsQuote quote)
    (found : scanText quote rest = some (content, after)) :
    scan quote rest = .ok (.text (String.ofList content), after) := by
  rcases opens with rfl | rfl <;> simp [scan, Number.isDigit, found]

theorem scan_of_isNameStart {c : Char} (starts : isNameStart c = true) (rest : List Char) :
    scan c rest =
      .ok (ofWord (String.ofList (c :: rest.takeWhile isNamePart)), rest.dropWhile isNamePart) := by
  have point : c ≠ '.' := by
    rintro rfl
    cases starts
  have solid : ¬ (c = '\'' ∨ c = '"') :=
    not_isQuote_of_isNamePart (isNamePart_of_isNameStart starts)
  unfold scan
  rw [if_neg (by simp [not_isDigit_of_isNameStart starts, point]), if_neg solid, if_pos starts]

/-- The character that starts a symbol starts no other token, but for the point. -/
theorem starts_symbol (s : Symbol) {c : Char} {word : List Char}
    (shown : s.text.toList = c :: word) :
    Number.isDigit c = false ∧ ¬ IsQuote c ∧ isNameStart c = false ∧ Text.isBlank c = false ∧
      (c = '.' → limitOf s = .digit ∧ word = []) := by
  cases s <;> cases shown <;> refine ⟨?_, ?_, ?_, ?_, ?_⟩ <;> decide

theorem scan_of_symbol {s : Symbol} {c : Char} {word after : List Char}
    (shown : s.text.toList = c :: word) (ends : (limitOf s).Ends after) :
    scan c (word ++ after) = .ok (.symbol s, after) := by
  obtain ⟨digit, solid, starts, -, point⟩ := starts_symbol s shown
  have number :
      ¬ (Number.isDigit c = true ∨ (c = '.' ∧ startsWithDigit (word ++ after) = true)) := by
    rintro (found | ⟨same, found⟩)
    · exact Bool.eq_false_iff.mp digit found
    · obtain ⟨limit, rfl⟩ := point same
      rw [limit] at ends
      exact Bool.eq_false_iff.mp ends found
  have solid : ¬ (c = '\'' ∨ c = '"') := solid
  unfold scan
  rw [if_neg number, if_neg solid, if_neg (Bool.eq_false_iff.mp starts),
    scanSymbol_text s shown ends]
  rfl

/-- A word that the text after it does not go on with is read as its token. -/
theorem Spelled.scan_eq {token : Token} {c : Char} {word after : List Char} {limit : Limit}
    (spelled : Spelled token (c :: word) limit) (ends : limit.Ends after) :
    scan c (word ++ after) = .ok (token, after) := by
  generalize shown : c :: word = text at spelled
  cases spelled with
  | whole some all =>
    subst shown
    unfold scan
    rw [if_pos (Or.inl (all c List.mem_cons_self))]
    exact congrArg Except.ok (scanNumber_whole all ends)
  | @fraction digits fraction all some all' =>
    have scanned := scanNumber_fraction all some all' ends
    rw [← shown] at scanned
    unfold scan
    rw [if_pos]
    · exact congrArg Except.ok scanned
    · cases digits with
      | nil =>
        obtain ⟨rfl, rfl⟩ := List.cons.inj shown
        exact Or.inr ⟨rfl, startsWithDigit_append some all' after⟩
      | cons d digits =>
        obtain ⟨rfl, -⟩ := List.cons.inj shown
        exact Or.inl (all c List.mem_cons_self)
  | @literal quote raw content opens inside =>
    obtain ⟨rfl, rfl⟩ := List.cons.inj shown
    rw [List.append_assoc]
    exact scan_of_quote opens (inside.scanText_eq opens after)
  | word starts parts =>
    obtain ⟨rfl, rfl⟩ := List.cons.inj shown
    rw [scan_of_isNameStart starts, takeWhile_append_of_ends parts ends,
      dropWhile_append_of_ends parts ends]
  | symbol s => exact scan_of_symbol shown.symm ends
  | strictEqual =>
    cases shown
    rfl
  | strictUnequal =>
    cases shown
    rfl

theorem spanDigits_ne_nil {text : List Char} (starts : startsWithDigit text = true) :
    (Number.spanDigits text).1 ≠ [] := by
  cases text with
  | nil => cases starts
  | cons c rest =>
    have digit : Number.isDigit c = true := starts
    simp [Number.spanDigits, digit]

theorem spelled_scanNumber {text : List Char}
    (starts : startsWithDigit text = true ∨ startsWithFraction text = true) :
    ∃ word limit, text = word ++ (scanNumber text).2 ∧
      Spelled (scanNumber text).1 word limit ∧ limit.Ends (scanNumber text).2 := by
  have all := Number.spanDigits_all text
  have joined := Number.spanDigits_append text
  have stop : startsWithDigit (Number.spanDigits text).2 = false :=
    startsWithDigit_eq_false_iff.mpr (ends_dropWhile _ text)
  simp only [scanNumber]
  cases shape : startsWithFraction (Number.spanDigits text).2 with
  | false =>
    rw [scanFraction_of_none shape]
    have some : (Number.spanDigits text).1 ≠ [] := by
      rcases starts with digit | fraction
      · exact spanDigits_ne_nil digit
      · intro none
        rw [none, List.nil_append] at joined
        rw [joined, fraction] at shape
        cases shape
    exact ⟨_, .number, joined.symm, .whole some all, stop, shape⟩
  | true =>
    obtain ⟨more, tail, digit⟩ := startsWithFraction_iff.mp shape
    rw [tail] at joined
    simp only [tail, scanFraction, digit, if_true]
    refine ⟨(Number.spanDigits text).1 ++ '.' :: (Number.spanDigits more).1, .digit, ?_,
      .fraction all (spanDigits_ne_nil digit) (Number.spanDigits_all more),
      startsWithDigit_eq_false_iff.mpr (ends_dropWhile _ more)⟩
    rw [List.append_assoc, List.cons_append, Number.spanDigits_append, joined]

theorem spelled_scanSymbol {c : Char} {rest after : List Char} {s : Symbol}
    (found : scanSymbol c rest = .ok (s, after)) (point : c = '.' → startsWithDigit rest = false) :
    ∃ word limit, rest = word ++ after ∧ Spelled (.symbol s) (c :: word) limit ∧
      limit.Ends after := by
  have taken (word : List Char) (shown : s.text.toList = c :: word) (split : rest = word ++ after)
      (ends : (limitOf s).Ends after) :
      ∃ word limit, rest = word ++ after ∧ Spelled (.symbol s) (c :: word) limit ∧
        limit.Ends after :=
    ⟨word, limitOf s, split, shown ▸ .symbol s, ends⟩
  have stop {d : Char} {more : List Char} (none : ∀ other, more = d :: other → False) :
      more.head? ≠ some d := by
    intro head
    obtain ⟨other, same⟩ := List.head?_eq_some_iff.mp head
    exact none other same
  unfold scanSymbol at found
  split at found
  -- A symbol takes its first character alone, or one or two of these with it. Where it could take
  -- more, the cases before it have failed.
  all_goals first
    | cases found; done
    | cases found; exact taken [] rfl rfl trivial
    | cases found; exact taken [] rfl rfl (point rfl)
    | cases found; exact taken [] rfl rfl (stop (by assumption))
    | cases found; exact taken ['='] rfl rfl trivial
    | cases found; exact taken ['='] rfl rfl (stop (by assumption))
    | cases found; exact ⟨['=', '='], .none, rfl, .strictEqual, trivial⟩
    | cases found; exact ⟨['=', '='], .none, rfl, .strictUnequal, trivial⟩
    | cases found; exact taken ['&'] rfl rfl trivial
    | cases found; exact taken ['|'] rfl rfl trivial
    | cases found; exact taken ['?'] rfl rfl trivial
    | next noSecond noPoint =>
      cases found
      exact taken [] rfl rfl ⟨stop noSecond, fun head => absurd head (stop noPoint)⟩
    | next more =>
      split at found
      · next digit =>
        have ends : Limit.question.Ends ('.' :: more) := ⟨nofun, fun _ => digit⟩
        cases found
        exact taken [] rfl rfl ends
      · next none =>
        cases found
        exact taken ['.'] rfl rfl (Bool.eq_false_iff.mpr none)

theorem spelled_of_scan {token : Token} {c : Char} {rest after : List Char}
    (found : scan c rest = .ok (token, after)) :
    ∃ word limit, rest = word ++ after ∧ Spelled token (c :: word) limit ∧ limit.Ends after := by
  unfold scan at found
  split at found
  · next starts =>
    have fraction :
        c = '.' ∧ startsWithDigit rest = true → startsWithFraction (c :: rest) = true := by
      rintro ⟨rfl, digit⟩
      exact digit
    obtain ⟨word, limit, split, spelled, ends⟩ := spelled_scanNumber (starts.imp_right fraction)
    rw [Except.ok.inj found] at split spelled ends
    obtain ⟨d, word, rfl⟩ := List.exists_cons_of_ne_nil spelled.ne_nil
    obtain ⟨rfl, same⟩ := List.cons.inj split
    exact ⟨word, limit, same, spelled, ends⟩
  · next number =>
    split at found
    · next opens =>
      split at found
      · next content remaining inner =>
        obtain ⟨raw, split, inside⟩ := quoted_of_scanText inner
        cases found
        refine ⟨raw ++ [c], .none, ?_, .literal opens inside, trivial⟩
        rw [split, List.append_assoc, List.singleton_append]
      · cases found
    · split at found
      · next starts =>
        cases found
        exact ⟨_, .name, List.takeWhile_append_dropWhile.symm,
          .word starts (List.all_eq_true.mp List.all_takeWhile), ends_dropWhile _ rest⟩
      · cases scanned : scanSymbol c rest with
        | error cause =>
          rw [scanned] at found
          cases found
        | ok pair =>
          rw [scanned] at found
          cases found
          exact spelled_scanSymbol scanned fun point =>
            Bool.eq_false_iff.mpr fun digit => number (Or.inr ⟨point, digit⟩)

theorem scan_eq_ok_iff {token : Token} {c : Char} {word after : List Char} :
    scan c (word ++ after) = .ok (token, after) ↔
      ∃ limit, Spelled token (c :: word) limit ∧ limit.Ends after := by
  constructor
  · intro found
    obtain ⟨same, limit, split, spelled, ends⟩ := spelled_of_scan found
    obtain rfl := List.append_cancel_right split
    exact ⟨limit, spelled, ends⟩
  · rintro ⟨limit, spelled, ends⟩
    exact spelled.scan_eq ends

theorem Spelled.not_isBlank {token : Token} {c : Char} {word : List Char} {limit : Limit}
    (spelled : Spelled token (c :: word) limit) : Text.isBlank c = false := by
  refine Bool.eq_false_iff.mpr fun blank => ?_
  have noDigit := not_isDigit_of_isBlank blank
  generalize shown : c :: word = text at spelled
  cases spelled with
  | whole some all =>
    subst shown
    exact Bool.eq_false_iff.mp noDigit (all c List.mem_cons_self)
  | @fraction digits _ all =>
    cases digits with
    | nil =>
      obtain ⟨rfl, -⟩ := List.cons.inj shown
      cases blank
    | cons d digits =>
      obtain ⟨rfl, -⟩ := List.cons.inj shown
      exact Bool.eq_false_iff.mp noDigit (all c List.mem_cons_self)
  | literal opens inside =>
    obtain ⟨rfl, -⟩ := List.cons.inj shown
    exact not_isQuote_of_isBlank blank opens
  | word starts parts =>
    obtain ⟨rfl, -⟩ := List.cons.inj shown
    exact Bool.eq_false_iff.mp (not_isNamePart_of_isBlank blank) (isNamePart_of_isNameStart starts)
  | symbol s => exact Bool.eq_false_iff.mp (starts_symbol s shown.symm).2.2.2.1 blank
  | strictEqual =>
    obtain ⟨rfl, -⟩ := List.cons.inj shown
    cases blank
  | strictUnequal =>
    obtain ⟨rfl, -⟩ := List.cons.inj shown
    cases blank

theorem lex_eq_ok_iff {source : String} {tokens : List Token} :
    lex source = .ok tokens ↔ tokensOf source.toList = .ok tokens := by
  rw [lex]
  cases tokensOf source.toList with
  | error refusal => exact ⟨nofun, nofun⟩
  | ok same => exact ⟨fun found => by cases found; rfl, fun found => by cases found; rfl⟩

end Token

end LiveConfig
