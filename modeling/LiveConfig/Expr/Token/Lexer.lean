import LiveConfig.Expr.Token
import LiveConfig.Number.Numeral
import LiveConfig.Text.Alphanumeric
import LiveConfig.Text.Blank

set_option autoImplicit false

namespace LiveConfig.Token

/-- Why a text has no tokens. -/
inductive LexCause where
  | assignment
  | loneAmpersand
  | loneBar
  | unterminatedText
  | unexpected (c : Char)
deriving DecidableEq, Repr

def LexCause.message : LexCause → String
  | .assignment => "assignment is not supported, expected '=='"
  | .loneAmpersand => "expected '&&' operator"
  | .loneBar => "expected '||' operator"
  | .unterminatedText => "unterminated string"
  | .unexpected c => "unexpected character: '" ++ c.toString ++ "'"

/-- A refusal and the bytes of text before the token it concerns. -/
structure LexError where
  cause : LexCause
  position : Nat
deriving DecidableEq, Repr

def LexError.display (e : LexError) : String :=
  "lex error at position " ++ toString e.position ++ ": " ++ e.cause.message

/-- A token and the text after it. -/
abbrev Scanned := Token × List Char

def startsWithDigit : List Char → Bool
  | c :: _ => Number.isDigit c
  | [] => false

/-- The digits after a point, and the text after them; a point that no digit follows is left. -/
def scanFraction : List Char → List Char × List Char
  | '.' :: more => if startsWithDigit more then Number.spanDigits more else ([], '.' :: more)
  | rest => ([], rest)

/-- Digits, and a fraction if a digit follows the point. -/
def scanNumber (text : List Char) : Scanned :=
  let digits := Number.spanDigits text
  let fraction := scanFraction digits.2
  (.number (Number.ofDigits digits.1 fraction.1 0), fraction.2)

/-- What a backslash and the character after it stand for. -/
def unescape (c : Char) : Char :=
  if c = 'n' then '\n' else if c = 't' then '\t' else c

/-- The content of a literal up to its closing quote, and the text after that. -/
def scanText (quote : Char) : List Char → Option (List Char × List Char)
  | [] => none
  | '\\' :: rest =>
    match rest with
    | [] => none
    | c :: more => (scanText quote more).map fun (content, after) => (unescape c :: content, after)
  | c :: rest =>
    if c = quote then some ([], rest)
    else (scanText quote rest).map fun (content, after) => (c :: content, after)

def isNameStart (c : Char) : Bool :=
  c.isAlpha || c == '_' || c == '$'

def isNamePart (c : Char) : Bool :=
  Text.isAlphanumeric c || c == '_' || c == '$'

/-- Names that are literals. -/
def ofWord (word : String) : Token :=
  if word = "null" ∨ word = "undefined" then .null
  else if word = "true" then .bool true
  else if word = "false" then .bool false
  else .name word

/-- A symbol that starts with the given character. -/
def scanSymbol (c : Char) (rest : List Char) : Except LexCause (Symbol × List Char) :=
  match c, rest with
  | '+', _ => .ok (.plus, rest)
  | '-', _ => .ok (.minus, rest)
  | '*', _ => .ok (.star, rest)
  | '/', _ => .ok (.slash, rest)
  | '%', _ => .ok (.percent, rest)
  | '.', _ => .ok (.dot, rest)
  | ',', _ => .ok (.comma, rest)
  | ':', _ => .ok (.colon, rest)
  | '(', _ => .ok (.openParen, rest)
  | ')', _ => .ok (.closeParen, rest)
  | '[', _ => .ok (.openBracket, rest)
  | ']', _ => .ok (.closeBracket, rest)
  | '{', _ => .ok (.openBrace, rest)
  | '}', _ => .ok (.closeBrace, rest)
  | '=', '=' :: '=' :: more => .ok (.equal, more)
  | '=', '=' :: more => .ok (.equal, more)
  | '=', _ => .error .assignment
  | '!', '=' :: '=' :: more => .ok (.unequal, more)
  | '!', '=' :: more => .ok (.unequal, more)
  | '!', _ => .ok (.not, rest)
  | '<', '=' :: more => .ok (.lessEqual, more)
  | '<', _ => .ok (.less, rest)
  | '>', '=' :: more => .ok (.greaterEqual, more)
  | '>', _ => .ok (.greater, rest)
  | '&', '&' :: more => .ok (.and, more)
  | '&', _ => .error .loneAmpersand
  | '|', '|' :: more => .ok (.or, more)
  | '|', _ => .error .loneBar
  | '?', '?' :: more => .ok (.nullish, more)
  | '?', '.' :: more =>
    -- a digit after the point makes it a fraction, the second operand of a ternary
    if startsWithDigit more then .ok (.question, rest) else .ok (.optionalDot, more)
  | '?', _ => .ok (.question, rest)
  | _, _ => .error (.unexpected c)

/-- The token that starts with the given character, which is no white space. -/
def scan (c : Char) (rest : List Char) : Except LexCause Scanned :=
  if Number.isDigit c ∨ (c = '.' ∧ startsWithDigit rest) then
    .ok (scanNumber (c :: rest))
  else if c = '\'' ∨ c = '"' then
    match scanText c rest with
    | some (content, after) => .ok (.text (String.ofList content), after)
    | none => .error .unterminatedText
  else if isNameStart c then
    .ok (ofWord (String.ofList (c :: rest.takeWhile isNamePart)), rest.dropWhile isNamePart)
  else
    (scanSymbol c rest).map fun (operator, after) => (.symbol operator, after)

theorem length_dropWhile_le {α : Type} (p : α → Bool) (l : List α) :
    (l.dropWhile p).length ≤ l.length := by
  have parts := congrArg List.length (List.takeWhile_append_dropWhile (p := p) (l := l))
  simp only [List.length_append] at parts
  omega

theorem length_scanFraction (text : List Char) :
    (scanFraction text).2.length ≤ text.length := by
  unfold scanFraction
  split
  · next more =>
    split
    · have shorter := length_dropWhile_le Number.isDigit more
      simp only [Number.spanDigits, List.length_cons]
      omega
    · exact Nat.le_refl _
  · exact Nat.le_refl _

theorem length_scanNumber (c : Char) (rest : List Char)
    (starts : Number.isDigit c ∨ (c = '.' ∧ startsWithDigit rest)) :
    (scanNumber (c :: rest)).2.length ≤ rest.length := by
  rcases starts with digit | ⟨rfl, digit⟩
  · have fraction := length_scanFraction (rest.dropWhile Number.isDigit)
    have shorter := length_dropWhile_le Number.isDigit rest
    simp only [scanNumber, Number.spanDigits, List.dropWhile_cons, digit, if_true]
    omega
  · have point : Number.isDigit '.' = false := by decide
    simp only [scanNumber, Number.spanDigits, List.dropWhile_cons, point, Bool.false_eq_true,
      if_false, scanFraction, digit, if_true]
    exact length_dropWhile_le Number.isDigit rest

theorem length_scanText {quote : Char} {text content after : List Char}
    (found : scanText quote text = some (content, after)) : after.length < text.length := by
  fun_induction scanText quote text generalizing content after with
  | case1 => simp at found
  | case2 => simp at found
  | case3 c more ih =>
    obtain ⟨⟨front, back⟩, inner, eq⟩ := Option.map_eq_some_iff.mp found
    simp only [Prod.mk.injEq] at eq
    obtain ⟨rfl, rfl⟩ := eq
    have := ih inner
    simp only [List.length_cons]
    omega
  | case4 =>
    simp only [Option.some.injEq, Prod.mk.injEq] at found
    obtain ⟨rfl, rfl⟩ := found
    simp
  | case5 c rest _ _ ih =>
    obtain ⟨⟨front, back⟩, inner, eq⟩ := Option.map_eq_some_iff.mp found
    simp only [Prod.mk.injEq] at eq
    obtain ⟨rfl, rfl⟩ := eq
    have := ih inner
    simp only [List.length_cons]
    omega

theorem length_scanSymbol {c : Char} {rest after : List Char} {operator : Symbol}
    (found : scanSymbol c rest = .ok (operator, after)) : after.length ≤ rest.length := by
  unfold scanSymbol at found
  split at found
  all_goals first
    | (split at found <;> · simp only [Except.ok.injEq, Prod.mk.injEq] at found
                            obtain ⟨rfl, rfl⟩ := found
                            simp only [List.length_cons]
                            omega)
    | (simp only [Except.ok.injEq, Prod.mk.injEq] at found
       obtain ⟨rfl, rfl⟩ := found
       simp only [List.length_cons, Nat.le_refl]
       try omega)
    | simp at found

/-- A token takes at least the character it starts with. -/
theorem length_scan {c : Char} {rest after : List Char} {token : Token}
    (found : scan c rest = .ok (token, after)) : after.length ≤ rest.length := by
  unfold scan at found
  split at found
  · next starts =>
    have shorter := length_scanNumber c rest starts
    simp only [Except.ok.injEq] at found
    rw [found] at shorter
    exact shorter
  · split at found
    · split at found
      · next content remaining inner =>
        have := length_scanText inner
        simp only [Except.ok.injEq, Prod.mk.injEq] at found
        obtain ⟨rfl, rfl⟩ := found
        omega
      · simp at found
    · split at found
      · simp only [Except.ok.injEq, Prod.mk.injEq] at found
        obtain ⟨rfl, rfl⟩ := found
        exact length_dropWhile_le _ _
      · cases inner : scanSymbol c rest with
        | error cause => simp [inner, Except.map] at found
        | ok scanned =>
          obtain ⟨operator, remaining⟩ := scanned
          simp only [inner, Except.map, Except.ok.injEq, Prod.mk.injEq] at found
          obtain ⟨rfl, rfl⟩ := found
          exact length_scanSymbol inner

/-- The tokens of a text; a refusal comes with the text from the refused token on. -/
def tokensOf (text : List Char) : Except (LexCause × List Char) (List Token) :=
  match text with
  | [] => .ok [.eof]
  | c :: rest =>
    if Text.isBlank c then tokensOf rest
    else
      match _found : scan c rest with
      | .error cause => .error (cause, c :: rest)
      | .ok (token, after) => (tokensOf after).map (token :: ·)
termination_by text.length
decreasing_by
  · simp
  · have := length_scan _found
    simp only [List.length_cons]
    omega

/-- The number of bytes that encode a text. -/
def byteLength (text : List Char) : Nat :=
  text.foldl (fun length c => length + c.utf8Size) 0

/-- All tokens of a text, ending in `eof`. -/
def lex (s : String) : Except LexError (List Token) :=
  (tokensOf s.toList).mapError fun (cause, left) =>
    ⟨cause, byteLength s.toList - byteLength left⟩

end LiveConfig.Token
